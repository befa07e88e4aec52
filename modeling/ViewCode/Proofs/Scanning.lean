import ViewCode.Markup.Piece
import ViewCode.Proofs.Decoding

/-!
# Scanning for pieces

Content is cut into pieces one after another. Text is the only piece that is made of more than one
token, so that while content is read token by token there may be text before it that is not closed
yet: the next token goes on with it or, if that is markup, closes it.
-/

namespace ViewCode.Markup

/-- No token is empty. -/
theorem Content.lexeme_ne_nil_of_next? {content after : List Char} {token : Token}
    (h : next? content = some (token, after)) : token.lexeme ≠ [] := by
  cases content with
  | nil => simp [next?] at h
  | cons c rest =>
    have hn := lexeme_first_ne_nil c rest
    rw [next?, Option.some.injEq] at h
    rw [h] at hn
    exact hn

/-- Only at its end does content have no token. -/
theorem Content.next?_eq_none_iff {content : List Char} : next? content = none ↔ content = [] := by
  cases content <;> simp [next?]

/-- The piece of a text, unless it is empty. -/
def textPieces (content : String) : List Piece :=
  if content = "" then [] else [.text content]

theorem textPieces_of_ne_nil {raw : List Char} (h : raw ≠ []) :
    textPieces (Reference.decoded raw) = [.text (Reference.decoded raw)] :=
  if_neg fun he => h (Reference.decoded_eq_empty_iff.1 he)

theorem textPieces_nil : textPieces (Reference.decoded []) = [] :=
  if_pos (Reference.decoded_eq_empty_iff.2 rfl)

namespace Piece

theorem scan_nil : scan [] = [] := by
  rw [scan]
  rfl

/-- The first piece comes before all others. -/
theorem scan_of_next? {content after : List Char} {piece : Piece}
    (h : next? content = some (piece, after)) : scan content = piece :: scan after := by
  rw [scan]
  split
  · rename_i hn
    rw [h] at hn
    simp at hn
  · rename_i found rest hn
    rw [h] at hn
    cases hn
    rfl

section Token

variable {content after : List Char} {token : Content.Token}
  (hn : Content.next? content = some (token, after))

include hn

/-- The first piece begins with the first token. -/
theorem scan_of_token : scan content = (ofToken token after).1 :: scan (ofToken token after).2 := by
  apply scan_of_next?
  rw [next?, hn, Option.map_some]

/-- A token that is read as text begins a run of text. -/
theorem textRun_of_isText (hk : isText token.kind = true) :
    textRun content = (token.lexeme ++ (textRun after).1, (textRun after).2) := by
  rw [textRun]
  split
  · rename_i h
    rw [hn] at h
    simp at h
  · rename_i found left h
    rw [hn] at h
    cases h
    rw [if_pos hk]

/-- Before markup there is no text. -/
theorem textRun_of_not_isText (hk : isText token.kind = false) :
    textRun content = ([], content) := by
  rw [textRun]
  split
  · rfl
  · rename_i found left h
    rw [hn] at h
    cases h
    rw [if_neg (by simp [hk])]

end Token

/-- A token that is read as text begins a piece of text. -/
theorem ofToken_of_isText {token : Content.Token} (hk : isText token.kind = true)
    (after : List Char) :
    ofToken token after =
      (.text (Reference.decoded (token.lexeme ++ (textRun after).1)), (textRun after).2) := by
  cases h : token.kind with
  | text => rw [ofToken, h]
  | lessThan => rw [ofToken, h]
  | unterminated => rw [ofToken, h]
  | _ =>
    rw [h] at hk
    exact absurd hk Bool.false_ne_true

/-- The pieces of the content if raw text that is not closed yet stands before it. -/
def scanAfter (pending content : List Char) : List Piece :=
  textPieces (Reference.decoded (pending ++ (textRun content).1)) ++ scan (textRun content).2

/-- The end of the input closes the text before it. -/
theorem scanAfter_nil (pending : List Char) :
    scanAfter pending [] = textPieces (Reference.decoded pending) := by
  have hr : textRun [] = ([], []) := by
    rw [textRun]
    rfl
  simp [scanAfter, hr, scan_nil]

section Token

variable {content after : List Char} {token : Content.Token}
  (hn : Content.next? content = some (token, after))

include hn

/-- Text that is read goes on with the text before it. -/
theorem scanAfter_of_isText (hk : isText token.kind = true) (pending : List Char) :
    scanAfter pending content = scanAfter (pending ++ token.lexeme) after := by
  simp [scanAfter, textRun_of_isText hn hk]

/-- Markup closes the text before it. -/
theorem scanAfter_of_not_isText (hk : isText token.kind = false) (pending : List Char) :
    scanAfter pending content = textPieces (Reference.decoded pending) ++
      (ofToken token after).1 :: scan (ofToken token after).2 := by
  simp [scanAfter, textRun_of_not_isText hn hk, scan_of_token hn]

end Token

/-- Without text before it, content has its own pieces. -/
theorem scanAfter_nil_pending (content : List Char) : scanAfter [] content = scan content := by
  cases hn : Content.next? content with
  | none =>
    rw [Content.next?_eq_none_iff.1 hn, scanAfter_nil, scan_nil, textPieces_nil]
  | some front =>
    obtain ⟨token, after⟩ := front
    cases hk : isText token.kind with
    | true =>
      have hl : token.lexeme ++ (textRun after).1 ≠ [] :=
        List.append_ne_nil_of_left_ne_nil (Content.lexeme_ne_nil_of_next? hn) _
      rw [scan_of_token hn, ofToken_of_isText hk, scanAfter, textRun_of_isText hn hk,
        List.nil_append, textPieces_of_ne_nil hl, List.singleton_append]
    | false =>
      rw [scan_of_token hn, scanAfter_of_not_isText hn hk, textPieces_nil, List.nil_append]

end Piece

end ViewCode.Markup
