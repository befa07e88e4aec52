import Mathlib
import ViewCode.Markup.Reference
import ViewCode.Proofs.TextRuns

/-!
# Decoding of references

How the characters of a text are decoded, one reference after another. A `<` stands in no reference,
so that it divides a text in parts that are decoded each by itself.
-/

namespace ViewCode.Markup.Reference

open ViewCode.Text

/-- A character that is no ampersand stands for itself. -/
theorem decode_cons_of_ne {c : Char} (h : c ≠ '&') (rest : List Char) :
    decode (c :: rest) = c :: decode rest := by
  rw [decode, if_neg h]

/-- An ampersand is decoded with the reference it begins, if it begins one. -/
theorem decode_ampersand (rest : List Char) :
    decode ('&' :: rest) =
      match next? rest with
      | some (referred, after) => referred :: decode after
      | none => '&' :: decode rest := by
  rw [decode, if_pos rfl]
  split
  all_goals
    rename_i h
    simp only [h]

/-- Decoding leaves something of a text that is not empty. -/
theorem decode_ne_nil {text : List Char} (h : text ≠ []) : decode text ≠ [] := by
  cases text with
  | nil => exact absurd rfl h
  | cons c rest =>
    rw [decode]
    split
    · split <;> exact List.cons_ne_nil _ _
    · exact List.cons_ne_nil _ _

/-- Only the empty text stands for the empty text. -/
theorem decoded_eq_empty_iff {raw : List Char} : decoded raw = "" ↔ raw = [] := by
  rw [decoded, String.ofList_eq_empty_iff]
  constructor
  · intro hd
    by_contra hn
    exact decode_ne_nil hn hd
  · rintro rfl
    rw [decode]

/-- No name of a reference has the byte of a `<`. -/
theorem less_not_mem_names :
    (names.all fun entry => entry.2.all fun reference =>
      reference.1.toByteArray.data.toList.all (· != 60)) = true := by
  -- The bytes are compared, not the characters: to decode all names takes ten times as long.
  decide +kernel

/-- The character `<` is the byte 60. -/
theorem less_mem_bytes {text : List Char} (h : '<' ∈ text) :
    60 ∈ (String.ofList text).toByteArray.data.toList := by
  rw [String.toByteArray_ofList, List.utf8Encode, List.toList_data_toByteArray]
  exact List.mem_flatMap.2 ⟨'<', h, by decide⟩

/-- No name has a `<` in it. -/
theorem named?_of_less_mem {name : List Char} (h : '<' ∈ name) : named? name = none := by
  by_contra hn
  obtain ⟨c, hc⟩ := Option.ne_none_iff_exists'.1 hn
  cases name with
  | nil => simp at h
  | cons initial rest =>
    simp only [named?, Option.bind_eq_bind, Option.bind_eq_some_iff] at hc
    obtain ⟨bucket, hb, code, hcode, -⟩ := hc
    obtain ⟨_, _, hnames, -⟩ := List.lookup_eq_some_iff.1 hb
    obtain ⟨_, _, hbucket, -⟩ := List.lookup_eq_some_iff.1 hcode
    have hall := less_not_mem_names
    simp only [List.all_eq_true] at hall
    have hbytes := hall (initial, bucket) (by simp [hnames])
      (String.ofList (initial :: rest), code) (by simp [hbucket])
    simpa using hbytes 60 (less_mem_bytes h)

/-- A fold that fails at a member of the list fails. -/
theorem foldlM_of_mem {α β : Type} {f : β → α → Option β} {items : List α} {item : α}
    (hm : item ∈ items) (hf : ∀ state, f state item = none) (state : β) :
    items.foldlM f state = none := by
  induction items generalizing state with
  | nil => simp at hm
  | cons first others ih =>
    rw [List.foldlM_cons]
    rcases List.mem_cons.1 hm with rfl | ho
    · rw [hf]
      rfl
    · cases f state first with
      | none => rfl
      | some next => exact ih ho next

/-- No number has a `<` in it. -/
theorem number?_of_less_mem {base : Nat} {digits : List Char} (h : '<' ∈ digits) :
    number? base digits = none := by
  cases digits with
  | nil => rfl
  | cons first others =>
    rw [number?]
    · refine foldlM_of_mem h (fun value => ?_) 0
      have hd : digit? base '<' = none := by simp [digit?]
      rw [hd]
      rfl
    · simp

/-- No reference has a `<` in it. -/
theorem resolve?_of_less_mem {inner : List Char} (h : '<' ∈ inner) : resolve? inner = none := by
  unfold resolve?
  split
  · rw [number?_of_less_mem (by simpa using h)]
    rfl
  · rw [number?_of_less_mem (by simpa using h)]
    rfl
  · rw [number?_of_less_mem (by simpa using h)]
    rfl
  · exact named?_of_less_mem h

/-- A reference before a `<` is the same without what comes from there on. -/
theorem next?_append_less (text rest : List Char) :
    next? (text ++ '<' :: rest) =
      (next? text).map fun found => (found.1, found.2 ++ '<' :: rest) := by
  obtain ⟨run, hr, ht⟩ := exists_run isInner text
  have hs := stops_dropWhile isInner text
  cases hd : text.dropWhile isInner with
  | nil =>
    rw [hd, List.append_nil] at ht
    subst ht
    have hm : '<' ∈ (text ++ '<' :: rest).takeWhile isInner := by
      rw [List.takeWhile_append_of_pos hr, List.takeWhile_cons_of_pos (by decide)]
      simp
    have hn : next? (text ++ '<' :: rest) = none := by
      unfold next?
      split
      · rw [resolve?_of_less_mem hm]
        rfl
      · rfl
    rw [hn, next?, hd]
    rfl
  | cons c after =>
    rw [hd] at ht hs
    subst ht
    have hso : Stops isInner (c :: (after ++ '<' :: rest)) := stops_cons (hs c rfl) _
    rw [List.append_assoc, List.cons_append, next?, next?, takeWhile_append_of_stops hr hs,
      dropWhile_append_of_stops hr hs, takeWhile_append_of_stops hr hso,
      dropWhile_append_of_stops hr hso]
    by_cases hc : c = ';'
    · subst hc
      simp [Option.map_map, Function.comp_def]
    · simp [hc]

/-- A `<` divides text in two parts that are decoded each by itself. -/
theorem decode_append_less (text rest : List Char) :
    decode (text ++ '<' :: rest) = decode text ++ decode ('<' :: rest) := by
  fun_induction decode text with
  | case1 => rfl
  | case2 tail referred after hn _ ih =>
    rw [List.cons_append, decode_ampersand, next?_append_less, hn]
    simpa using ih
  | case3 tail hn ih =>
    rw [List.cons_append, decode_ampersand, next?_append_less, hn]
    simpa using ih
  | case4 c tail hc ih =>
    rw [List.cons_append, decode_cons_of_ne hc, ih, List.cons_append]

/-- Text without `&` stands for itself. -/
theorem decode_of_not_mem {text : List Char} (h : '&' ∉ text) : decode text = text := by
  induction text with
  | nil => rw [decode]
  | cons c rest ih =>
    obtain ⟨hc, hr⟩ := List.ne_and_not_mem_of_not_mem_cons h
    rw [decode_cons_of_ne hc.symm, ih hr]

end ViewCode.Markup.Reference
