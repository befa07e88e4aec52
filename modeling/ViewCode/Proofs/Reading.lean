import ViewCode.Markup.Nesting
import ViewCode.Markup.Reader
import ViewCode.Proofs.Scanning

/-!
# Reading as a report

The reader calls its handler on the way, and each of these calls may end the reading. All the same
the calls are those of one list: the report of the pieces of the markup, which is made without any
handler. Every routine of the reader hands on its part of the report and returns the state that the
report goes on from, so that a run hands on the report of what is left to read.
-/

namespace ViewCode.Markup

/-- No raw-text element is void. -/
theorem ContentModel.isVoid_of_rawMode? {name : String} (h : rawMode? name ≠ none) :
    isVoid name = false := by
  unfold rawMode? at h
  split at h
  · rename_i hn
    rcases hn with rfl | rfl <;> decide
  · split at h
    · rename_i hn
      rcases hn with rfl | rfl <;> decide
    · exact absurd rfl h

/-- The event of a text, unless it is empty. -/
def textEvents (content : String) : List Event :=
  if content = "" then [] else [.text content]

/-- A text is reported as its event, if it is not empty. -/
theorem Nesting.report_textPieces_append (opened : OpenElements) (content : String)
    (pieces : List Piece) :
    report opened (textPieces content ++ pieces) =
      (textEvents content).map .event ++ report opened pieces := by
  unfold textPieces textEvents
  split <;> rfl

/-- An element that is open stands after those inside it. -/
theorem Nesting.length_eq_of_mem {name : String} {opened : OpenElements} (h : name ∈ opened) :
    opened.length = ((opened.dropWhile (· != name)).drop 1).length +
      ((opened.takeWhile (· != name)).length + 1) := by
  induction opened with
  | nil => simp at h
  | cons innermost outer ih =>
    by_cases hi : innermost = name
    · simp [hi]
    · have ho : name ∈ outer := (List.mem_cons.1 h).resolve_left (fun e => hi e.symm)
      have hl := ih ho
      simp [hi] at hl ⊢
      omega

namespace Reader

open Nesting

variable {ε σ : Type} (handle : Signal → EStateM ε σ Unit)

/-- The pending text is handed on as its event, if there is any. -/
theorem flushText_eq (reader : Reader) :
    flushText handle reader = do
      ((textEvents (Reference.decoded reader.pending.toList)).map Signal.event).forM handle
      return { reader with pending := "" } := by
  obtain ⟨opened, pending⟩ := reader
  unfold flushText textEvents
  by_cases hp : pending = ""
  · have hd : Reference.decoded [] = "" := Reference.decoded_eq_empty_iff.2 rfl
    simp [hd, hp]
  · have hd : Reference.decoded pending.toList ≠ "" := fun he =>
      hp (String.toList_eq_nil_iff.1 (Reference.decoded_eq_empty_iff.1 he))
    simp [hd, hp]

/-- Elements that a start tag ends are handed on as reported. -/
theorem endImplied_eq (name : String) (opened : List String) :
    endImplied handle name opened = do
      (Nesting.endImplied name opened).1.forM handle
      return (Nesting.endImplied name opened).2 := by
  induction opened with
  | nil => simp [endImplied, Nesting.endImplied]
  | cons innermost outer ih =>
    unfold endImplied Nesting.endImplied
    split
    · simp [ih]
    · simp

/-- Leaving elements hands on one event for each of them. -/
theorem leaveInner_eq (count : Nat) (opened : List String) (h : count ≤ opened.length) :
    leaveInner handle count opened = do
      (List.replicate count (Signal.event .leave)).forM handle
      return opened.drop count := by
  induction opened generalizing count with
  | nil =>
    obtain rfl : count = 0 := Nat.le_zero.1 h
    simp [leaveInner]
  | cons innermost outer ih =>
    cases count with
    | zero => simp [leaveInner]
    | succ count => simp [leaveInner, ih count (Nat.le_of_succ_le_succ h), List.replicate_succ]

/-- The nearest element of a name stands behind those inside it. -/
theorem findIdx?_of_mem {name : String} {opened : List String} (h : name ∈ opened) :
    opened.findIdx? (· == name) = some (opened.takeWhile (· != name)).length := by
  induction opened with
  | nil => simp at h
  | cons innermost outer ih =>
    by_cases hi : innermost = name
    · simp [hi, List.findIdx?_cons]
    · have ho : name ∈ outer := (List.mem_cons.1 h).resolve_left (Ne.symm hi)
      simp [hi, List.findIdx?_cons, ih ho]

/-- An end tag is handed on as reported. -/
theorem endTag_eq (name : String) (reader : Reader) :
    endTag handle name reader = do
      (Nesting.endTag name reader.opened).1.forM handle
      return { reader with opened := (Nesting.endTag name reader.opened).2 } := by
  obtain ⟨opened, pending⟩ := reader
  unfold endTag Nesting.endTag
  by_cases h : name ∈ opened
  · have hl := length_eq_of_mem h
    have hd : opened.drop ((opened.takeWhile (· != name)).length + 1) =
        (opened.dropWhile (· != name)).drop 1 := by
      have hsplit := @List.drop_length_add_append _ (opened.takeWhile (· != name))
        (opened.dropWhile (· != name)) 1
      rwa [List.takeWhile_append_dropWhile] at hsplit
    simp only [findIdx?_of_mem h, if_pos h]
    rw [leaveInner_eq handle _ _ (by omega), hd]
    simp
  · have hn : opened.findIdx? (· == name) = none := by
      rw [List.findIdx?_eq_none_iff]
      intro other ho
      exact beq_false_of_ne fun he => h (he ▸ ho)
    simp [hn, h]

/-- A start tag, with the element if that has raw text, is handed on as reported of its piece. -/
theorem startTag_eq {content left : List Char} {tag : Tag} (h : Tag.read content = (some tag, left))
    (name : String) (reader : Reader) :
    (fun started => (started.1, started.2.1)) <$> startTag handle name tag left reader = do
      let piece := Piece.ofStartTag name content
      (step reader.opened piece.1).1.forM handle
      return ({ reader with opened := (step reader.opened piece.1).2 }, piece.2) := by
  obtain ⟨opened, pending⟩ := reader
  unfold startTag Piece.ofStartTag
  rw [endImplied_eq, h]
  cases hr : ContentModel.rawMode? name with
  | none =>
    simp only [step, Nesting.startTag]
    split <;> simp
  | some mode =>
    have hv : ContentModel.isVoid name = false :=
      ContentModel.isVoid_of_rawMode? (by simp [hr])
    cases hs : tag.selfClosing with
    | true => simp [step, Nesting.startTag, hs]
    | false =>
      simp only [hs, hv, Bool.or_self, Bool.false_eq_true, if_false, step, rawElement]
      by_cases he : Piece.rawContent mode (RawText.upToEndTag name.toList left).1 = "" <;> simp [he]

/-- The elements that are open at the end of the input are handed on as reported. -/
theorem leaveAll_eq (opened : List String) :
    leaveAll handle opened = (endOfInput opened).forM handle := by
  induction opened with
  | nil => rfl
  | cons innermost outer ih =>
    rw [leaveAll, ih]
    rfl

/-- Before markup the pending text is handed on, and then the report goes on with the markup. -/
theorem flushText_bind {content after : List Char} {token : Content.Token}
    (hn : Content.next? content = some (token, after)) (hk : Piece.isText token.kind = false)
    {reader : Reader} {next : Reader → EStateM ε σ Unit}
    (h : next { reader with pending := "" } =
      (report reader.opened ((Piece.ofToken token after).1 ::
        Piece.scan (Piece.ofToken token after).2)).forM handle) :
    flushText handle reader >>= next =
      (report reader.opened (Piece.scanAfter reader.pending.toList content)).forM handle := by
  rw [flushText_eq, Piece.scanAfter_of_not_isText hn hk, report_textPieces_append]
  simp [h]

/-- A run hands on the report of what is left to read, whatever the handler does with it. -/
theorem run_eq_forM (reader : Reader) (content : List Char) :
    run handle reader content =
      (report reader.opened (Piece.scanAfter reader.pending.toList content)).forM handle := by
  fun_induction run handle reader content with
  | case1 reader content hn =>
    rw [Content.next?_eq_none_iff.1 hn, Piece.scanAfter_nil, flushText_eq]
    have hr := report_textPieces_append reader.opened (Reference.decoded reader.pending.toList) []
    rw [List.append_nil] at hr
    simp [hr, leaveAll_eq, report]
  | case2 reader content token after hn _ hk ih
  | case3 reader content token after hn _ hk ih
  | case4 reader content token after hn _ hk ih =>
    rw [ih, Piece.scanAfter_of_isText hn (by rw [hk]; rfl)]
    simp
  | case5 reader content token after hn _ hk ih
  | case6 reader content token after hn _ hk ih
  | case7 reader content token after hn _ hk ih =>
    apply flushText_bind handle hn (by rw [hk]; rfl)
    have ho : Piece.ofToken token after = (.ignored, after) := by simp only [Piece.ofToken, hk]
    rw [ih, ho, report]
    simp [Piece.scanAfter_nil_pending, step]
  | case8 reader content token after hn _ hk ih =>
    apply flushText_bind handle hn (by rw [hk]; rfl)
    have ho : Piece.ofToken token after = (.endTag (TagName.ofEnd token.lexeme), after) := by
      simp only [Piece.ofToken, hk]
    rw [endTag_eq, ho, report]
    simp [ih, Piece.scanAfter_nil_pending, step]
  | case9 reader content token after hn _ hk ihb iht =>
    apply flushText_bind handle hn (by rw [hk]; rfl)
    have ho : Piece.ofToken token after =
        Piece.ofStartTag (TagName.ofStart token.lexeme) after := by
      simp only [Piece.ofToken, hk]
    rw [ho]
    split
    · rename_i left ht
      have hp : Piece.ofStartTag (TagName.ofStart token.lexeme) after =
          (.brokenTag (TagName.ofStart token.lexeme), left) := by
        rw [Piece.ofStartTag, ht]
      rw [hp, report]
      simp [ihb _ left ht, Piece.scanAfter_nil_pending, step]
    · rename_i tag left ht
      have hs := startTag_eq handle ht (TagName.ofStart token.lexeme) { reader with pending := "" }
      -- The bound on the rest, by which the run ends, has no part in what is handed on.
      calc (startTag handle (TagName.ofStart token.lexeme) tag left
              { reader with pending := "" } >>= fun started => run handle started.1 started.2.1)
          = ((fun started => (started.1, started.2.1)) <$>
              startTag handle (TagName.ofStart token.lexeme) tag left
                { reader with pending := "" }) >>= fun started =>
              (report started.1.opened
                (Piece.scanAfter started.1.pending.toList started.2)).forM handle := by
            rw [bind_map_left]
            exact bind_congr fun started => iht tag left ht started.1 started.2.1 started.2.2
        _ = _ := by
            rw [hs, report]
            simp [Piece.scanAfter_nil_pending]

end Reader

/-- Reading the markup hands its report to the handler. -/
theorem observe_eq_forM {ε σ : Type} (markup : String) (handle : Signal → EStateM ε σ Unit) :
    observe markup handle =
      (Nesting.report [] (Piece.scan markup.toList)).forM handle := by
  have hs := Piece.scanAfter_nil_pending markup.toList
  rw [observe, Reader.run_eq_forM, ← hs]
  rfl

end ViewCode.Markup
