import ShapeCheck.Json.Reader

/-!
# Scanning piece by piece

A JSON text is scanned character by character.  `Json.Scans` says which tokens a piece of text
finishes and what it leaves open, whatever stood before it, so that what is known of the pieces of a
text can be put together.

* `Scans.append`, `Scans.cons` and `Scans.skip` put pieces together.
* `Scans.tokens?_eq`: the tokens of a text that begins and ends between tokens.
* `scans_hexQuad`: four hexadecimal digits inside a string are one sixteen-bit unit.
-/

namespace ShapeCheck

/-- A machine that has come through the first part of its input goes on with the second. -/
theorem foldlM_append_of_eq_some
    {α β : Type} {step : β → α → Option β} {first : List α} {s t : β}
    (h : first.foldlM step s = some t) (second : List α) :
    (first ++ second).foldlM step s = second.foldlM step t := by
  rw [List.foldlM_append, h]
  rfl

namespace Json

/-- Reading the text with the token `u` at hand finishes the given tokens and leaves `v` open,
whatever has been read before. -/
def Scans (text : List Char) (tokens : List Token) (u v : Unfinished) : Prop :=
  ∀ reversed, text.foldlM scanStep (reversed, u) = some (tokens.reverse ++ reversed, v)

namespace Scans

variable {text text' : List Char} {tokens tokens' : List Token} {u v w : Unfinished}

theorem nil (u : Unfinished) :
    Scans [] [] u u := by
  intro reversed
  rfl

theorem append (h : Scans text tokens u v) (h' : Scans text' tokens' v w) :
    Scans (text ++ text') (tokens ++ tokens') u w := by
  intro reversed
  rw [foldlM_append_of_eq_some (h reversed), List.reverse_append, List.append_assoc]
  exact h' (tokens.reverse ++ reversed)

theorem cons {c : Char} (hread : read? u c = some (tokens, v)) (h : Scans text tokens' v w) :
    Scans (c :: text) (tokens ++ tokens') u w := by
  intro reversed
  rw [List.foldlM_cons, scanStep, hread, List.reverse_append, List.append_assoc]
  exact h (tokens.reverse ++ reversed)

/-- A character that finishes no token. -/
theorem skip {c : Char} (hread : read? u c = some ([], v)) (h : Scans text tokens v w) :
    Scans (c :: text) tokens u w :=
  cons hread h

theorem single {c : Char} (hread : read? u c = some (tokens, v)) :
    Scans [c] tokens u v := by
  have h := cons hread (nil v)
  rwa [List.append_nil] at h

/-- A text that begins and ends between tokens consists of the tokens that it finishes. -/
theorem tokens?_eq (h : Scans text tokens .nothing .nothing) :
    tokens? text = some tokens := by
  rw [tokens?, h []]
  simp [finish?]

end Scans

section Escapes

variable {s : PartialString} {c : Char} {digit : Nat}

/-- A digit of a unit that is not its last. -/
theorem read?_unit_of_inner
    (hdigit : Text.hexValue? c = some digit) (due value : Nat) :
    read? (.unit s (due + 2) value) c = some ([], .unit s (due + 1) (value * 16 + digit)) := by
  simp [read?, hdigit]

theorem read?_unit_of_last
    (hdigit : Text.hexValue? c = some digit) (value : Nat) :
    read? (.unit s 1 value) c = some ([], .string (s.pushUnit (value * 16 + digit))) := by
  simp [read?, hdigit]

/-- Four digits inside a string give one unit. -/
theorem scans_hexQuad (s : PartialString) {n : Nat} (hn : n < 65536) :
    Scans (Text.hexQuad n) [] (.unit s 4 0) (.string (s.pushUnit n)) := by
  have hdigit (m : Nat) : Text.hexValue? (Text.hexDigit (m % 16)) = some (m % 16) :=
    Text.hexValue?_hexDigit (Nat.mod_lt m (by decide))
  have hvalue :
      (((0 * 16 + n / 4096 % 16) * 16 + n / 256 % 16) * 16 + n / 16 % 16) * 16 + n % 16 = n := by
    omega
  have hlast :=
    read?_unit_of_last (s := s) (hdigit n)
      (((0 * 16 + n / 4096 % 16) * 16 + n / 256 % 16) * 16 + n / 16 % 16)
  rw [hvalue] at hlast
  exact
    Scans.cons (read?_unit_of_inner (hdigit _) 2 0)
      (Scans.cons (read?_unit_of_inner (hdigit _) 1 _)
        (Scans.cons (read?_unit_of_inner (hdigit _) 0 _)
          (Scans.single hlast)))

end Escapes

end Json

end ShapeCheck
