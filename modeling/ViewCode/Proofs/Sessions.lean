import ViewCode.Conversion

/-!
# Sessions without memory

A session serves one request after another: to set the indentation, to set it by a character given
as text, or to convert markup. Whatever came before, a request is answered as the settings alone
say, and the settings are the first ones with the indentation that was last set with success.
-/

namespace ViewCode

open ViewCode.Code

namespace IndentChar

/-- The text stands for the character, which it either holds or names. -/
def IsGivenBy (char : IndentChar) (given : String) : Prop :=
  given = String.singleton char.toChar ∨ given = char.name

theorem tab_isGivenBy {given : String} : tab.IsGivenBy given ↔ given = "\t" ∨ given = "tab" :=
  Iff.rfl

theorem space_isGivenBy {given : String} :
    space.IsGivenBy given ↔ given = " " ∨ given = "space" :=
  Iff.rfl

/-- A text is read as the character that it stands for. -/
theorem ofString_eq_ok_iff {given : String} {char : IndentChar} :
    ofString given = .ok char ↔ char.IsGivenBy given := by
  unfold ofString
  cases char with
  | tab =>
    rw [tab_isGivenBy]
    grind
  | space =>
    rw [space_isGivenBy]
    grind

/-- A text that stands for no character is refused, and the error holds it. -/
theorem ofString_of_not_isGivenBy {given : String}
    (h : ∀ char : IndentChar, ¬char.IsGivenBy given) :
    ofString given = .error (.unknownChar given) := by
  have ht := mt tab_isGivenBy.2 (h tab)
  have hs := mt space_isGivenBy.2 (h space)
  rw [ofString, if_neg ht, if_neg hs]

end IndentChar

/-- How an indentation that is given as text is read. The character is looked at before the size,
and what is not refused is read as it is given. -/
theorem Indent.parse_cases (given : String) (size : UInt64) :
    ((∀ char : IndentChar, ¬char.IsGivenBy given) ∧
        parse given size = .error (.unknownChar given)) ∨
      ((∃ char : IndentChar, char.IsGivenBy given) ∧ size = 0 ∧
        parse given size = .error .zeroSize) ∨
      ∃ indent : Indent, indent.char.IsGivenBy given ∧ indent.size = size ∧
        parse given size = .ok indent := by
  unfold parse
  by_cases hg : ∃ char : IndentChar, char.IsGivenBy given
  · obtain ⟨char, hc⟩ := hg
    rw [IndentChar.ofString_eq_ok_iff.2 hc]
    dsimp only [ofSize]
    by_cases hs : 0 < size
    · rw [dif_pos hs]
      exact .inr (.inr ⟨⟨char, size, hs⟩, hc, rfl, rfl⟩)
    · rw [dif_neg hs]
      have hz : size = 0 := by grind
      exact .inr (.inl ⟨⟨char, hc⟩, hz, rfl⟩)
  · have hn : ∀ char : IndentChar, ¬char.IsGivenBy given := fun char hc => hg ⟨char, hc⟩
    rw [IndentChar.ofString_of_not_isGivenBy hn]
    exact .inl ⟨hn, rfl⟩

namespace Session

/-- What may be asked of a session. -/
inductive Request where
  /-- To set the indentation. -/
  | setIndent (indent : Indent)
  /-- To set the indentation by a character given as text, and a size. -/
  | parseIndent (given : String) (size : UInt64)
  /-- To convert markup. -/
  | convert (markup : String)
  deriving DecidableEq, Repr

/-- The answer to a request. -/
inductive Answer where
  /-- The indentation is set. -/
  | done
  /-- The indentation is not set. -/
  | refused (cause : IndentError)
  /-- The code of the markup, or why there is none. -/
  | converted (result : Except CodeError String)
  deriving Repr

/-- Serves a request: the answer, and the session for the next one. -/
def serve (session : Session) : Request → Answer × Session
  | .setIndent indent => (.done, session.setIndent indent)
  | .parseIndent given size =>
    match Session.parseIndent given size session with
    | .ok _ next => (.done, next)
    | .error cause next => (.refused cause, next)
  | .convert markup =>
    match Session.convert markup session with
    | .ok conversion next => (.converted (.ok conversion.code), next)
    | .error interruption next => (.converted (.error interruption.cause), next)

/-- Serves requests in order: all the answers, and the session after them. -/
def serveAll (session : Session) : List Request → List Answer × Session
  | [] => ([], session)
  | request :: rest =>
    let served := session.serve request
    let others := serveAll served.2 rest
    (served.1 :: others.1, others.2)

/-- The indentation that a request sets, if it sets one. -/
def Request.indent? : Request → Option Indent
  | .setIndent indent => some indent
  | .parseIndent given size => (Indent.parse given size).toOption
  | .convert _ => none

/-- The settings with the indentations that the requests set, one after another. -/
def settingsAfter (settings : Settings) (requests : List Request) : Settings :=
  (requests.filterMap Request.indent?).foldl (fun now indent => { now with indent := indent })
    settings

/-- Requests find the settings that those before them leave. -/
theorem settingsAfter_append (settings : Settings) (before after : List Request) :
    settingsAfter settings (before ++ after) =
      settingsAfter (settingsAfter settings before) after := by
  simp [settingsAfter]

/-- An indentation given as text counts if it can be read. -/
theorem settingsAfter_parseIndent (settings : Settings) (given : String) (size : UInt64) :
    settingsAfter settings [.parseIndent given size] =
      match Indent.parse given size with
      | .ok indent => { settings with indent := indent }
      | .error _ => settings := by
  cases h : Indent.parse given size <;> simp [settingsAfter, Request.indent?, h, Except.toOption]

/-- No request changes what becomes of ids. -/
theorem ids_settingsAfter (settings : Settings) (requests : List Request) :
    (settingsAfter settings requests).ids = settings.ids := by
  unfold settingsAfter
  induction requests.filterMap Request.indent? generalizing settings with
  | nil => rfl
  | cons indent rest ih => exact ih _

/-- A conversion starts afresh: it has the outcome that it has in a session in which nothing has
been converted yet. -/
theorem convert_eq_convert_start (markup : String) (session : Session) :
    Session.convert markup session = Session.convert markup (Session.start session.settings) := rfl

/-- A conversion keeps the settings, whether or not it succeeds. -/
theorem settings_serve_convert (session : Session) (markup : String) :
    (session.serve (.convert markup)).2.settings = session.settings := by
  unfold serve Session.convert
  dsimp only
  cases Markup.observe markup Observed.handle
      { draft := session.draft.restart session.settings } with
  | error cause observed => rfl
  | ok _ observed =>
    dsimp only
    cases Draft.limitedFinish observed.draft with
    | error cause draft => rfl
    | ok code draft => rfl

/-- A conversion is answered as the settings alone say. -/
theorem answer_serve_convert (session : Session) (markup : String) :
    (session.serve (.convert markup)).1 =
      .converted (ViewCode.convert session.settings markup) := by
  unfold serve ViewCode.convert
  dsimp only
  rw [convert_eq_convert_start markup session]
  cases Session.convert markup (Session.start session.settings) with
  | ok conversion next => rfl
  | error cause next => rfl

/-- An indentation given as text is set if it can be read, and otherwise the session stays. -/
theorem serve_parseIndent (session : Session) (given : String) (size : UInt64) :
    session.serve (.parseIndent given size) =
      match Indent.parse given size with
      | .ok indent => (.done, session.setIndent indent)
      | .error cause => (.refused cause, session) := by
  unfold serve Session.parseIndent
  dsimp only
  cases Indent.parse given size <;> rfl

/-- A request leaves the settings with the indentation that it sets. -/
theorem settings_serve (session : Session) (request : Request) :
    (session.serve request).2.settings = settingsAfter session.settings [request] := by
  cases request with
  | setIndent indent => rfl
  | parseIndent given size =>
    rw [serve_parseIndent, settingsAfter_parseIndent]
    cases Indent.parse given size <;> rfl
  | convert markup => exact settings_serve_convert session markup

/-- Requests leave the settings with the indentations that they set. -/
theorem settings_serveAll (session : Session) (requests : List Request) :
    (session.serveAll requests).2.settings = settingsAfter session.settings requests := by
  induction requests generalizing session with
  | nil => rfl
  | cons request rest ih =>
    have ha := settingsAfter_append session.settings [request] rest
    rw [← settings_serve] at ha
    exact (ih (session.serve request).2).trans ha.symm

/-- A request among others is answered by the session that those before it leave. -/
theorem getElem?_serveAll (session : Session) (before after : List Request) (request : Request) :
    (session.serveAll (before ++ request :: after)).1[before.length]? =
      some ((session.serveAll before).2.serve request).1 := by
  induction before generalizing session with
  | nil => rfl
  | cons first before ih => exact ih (session.serve first).2

/-- A session has no memory but its settings. Among any requests, one to convert markup is answered
with the code under the settings at that point, which are the first ones changed by the requests
before it that set an indentation. An indentation given as text is refused for its character first
and for its size next, and then all settings stay. No request changes what becomes of ids or leaves
an indentation of size zero. -/
theorem serveAll_depends_on_settings (settings : Settings) (before after : List Request)
    (request : Request) :
    let now := settingsAfter settings before
    let next := ((start settings).serveAll (before ++ [request])).2.settings
    let answer := ((start settings).serveAll (before ++ request :: after)).1[before.length]?
    ((start settings).serveAll before).2.settings = now ∧ next.ids = settings.ids ∧
      0 < next.indent.size ∧
      match request with
      | .convert markup => answer = some (.converted (ViewCode.convert now markup)) ∧ next = now
      | .setIndent indent => answer = some .done ∧ next = { now with indent := indent }
      | .parseIndent given size =>
        ((∀ char : IndentChar, ¬char.IsGivenBy given) ∧
            answer = some (.refused (.unknownChar given)) ∧ next = now) ∨
          ((∃ char : IndentChar, char.IsGivenBy given) ∧ size = 0 ∧
            answer = some (.refused .zeroSize) ∧ next = now) ∨
          ∃ indent : Indent, indent.char.IsGivenBy given ∧ indent.size = size ∧
            answer = some .done ∧ next = { now with indent := indent } := by
  intro now next answer
  -- What the request finds: a session with these settings, and a draft of which nothing is known.
  have hnow : ((start settings).serveAll before).2.settings = now :=
    settings_serveAll (start settings) before
  have hnext : next = settingsAfter now [request] := by
    rw [← settingsAfter_append]
    exact settings_serveAll (start settings) (before ++ [request])
  have hanswer : answer = some (((start settings).serveAll before).2.serve request).1 :=
    getElem?_serveAll (start settings) before after request
  have hids : next.ids = settings.ids := by
    rw [hnext, ids_settingsAfter]
    exact ids_settingsAfter settings before
  refine ⟨hnow, hids, next.indent.size_pos, ?_⟩
  cases request with
  | setIndent indent => exact ⟨hanswer, hnext⟩
  | convert markup =>
    rw [answer_serve_convert, hnow] at hanswer
    exact ⟨hanswer, hnext⟩
  | parseIndent given size =>
    rw [serve_parseIndent] at hanswer
    rw [settingsAfter_parseIndent] at hnext
    rcases Indent.parse_cases given size with ⟨hg, hp⟩ | ⟨hg, hs, hp⟩ | ⟨indent, hg, hs, hp⟩
    · rw [hp] at hanswer hnext
      exact .inl ⟨hg, hanswer, hnext⟩
    · rw [hp] at hanswer hnext
      exact .inr (.inl ⟨hg, hs, hanswer, hnext⟩)
    · rw [hp] at hanswer hnext
      exact .inr (.inr ⟨indent, hg, hs, hanswer, hnext⟩)

end Session

end ViewCode
