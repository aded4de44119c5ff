import RoadRouting.Text.Quoted

/-!
# Texts for a terminal

A terminal obeys some control characters instead of showing them. A text from outside, such as the
path of a file, is written to it with those characters named by their code.

* `steersTerminal`: the test for one character.
* `harmless`: a text without such characters.
* `steersTerminal_of_mem_harmless`, `harmless_eq_self`: no such character is left, and a text
  without any stays as it is.
-/

namespace RoadRouting.Text

/-- A terminal obeys the character: bell, backspace, form feed, escape, delete, and the controls
    beyond ASCII. -/
def steersTerminal (c : Char) : Bool :=
  ['\x07', '\x08', '\x0c', '\x1b', '\x7f'].contains c || (0x80 ≤ c.toNat && c.toNat ≤ 0x9F)

/-- The code of an ASCII character, in two digits. -/
def shortCode (c : Char) : String :=
  "\\x" ++ (if c.toNat < 16 then "0" else "") ++ hex c.toNat

/-- A character of a text that is written to a terminal. -/
def harmlessChar (c : Char) : String :=
  if steersTerminal c then if c.toNat < 0x80 then shortCode c else codeText c
  else String.singleton c

/-- A text with the characters that a terminal obeys named by their code. -/
def harmless (s : String) : String := String.join (s.toList.map harmlessChar)

theorem toNat_lt_of_steersTerminal {c : Char} (h : steersTerminal c = true) : c.toNat < 160 := by
  simp only [steersTerminal, Bool.or_eq_true, List.contains_eq_mem, decide_eq_true_eq,
    Bool.and_eq_true] at h
  rcases h with h | h
  · simp only [List.mem_cons, List.not_mem_nil, or_false] at h
    rcases h with h | h | h | h | h <;> subst h <;> decide
  · omega

theorem any_steersTerminal_harmlessChar (c : Char) :
    (harmlessChar c).toList.any steersTerminal = false := by
  have small : ∀ n < 160, (harmlessChar (Char.ofNat n)).toList.any steersTerminal = false := by
    decide +kernel
  by_cases h : steersTerminal c = true
  · have := small c.toNat (toNat_lt_of_steersTerminal h)
    rwa [Char.ofNat_toNat] at this
  · simp [harmlessChar, h]

/-- A terminal obeys no character of a harmless text. -/
theorem steersTerminal_of_mem_harmless {s : String} {c : Char} (h : c ∈ (harmless s).toList) :
    steersTerminal c = false := by
  simp only [harmless, String.toList_join, List.mem_flatMap, List.mem_map] at h
  obtain ⟨_, ⟨d, _, rfl⟩, hc⟩ := h
  have := any_steersTerminal_harmlessChar d
  simp only [List.any_eq_false] at this
  simpa using this c hc

/-- A text that no terminal obeys stays as it is. -/
theorem harmless_eq_self {s : String} (h : ∀ c ∈ s.toList, steersTerminal c = false) :
    harmless s = s := by
  have shown : s.toList.map harmlessChar = s.toList.map String.singleton :=
    List.map_congr_left fun c hc => by simp [harmlessChar, h c hc]
  apply String.toList_injective
  rw [harmless, shown, String.toList_join, List.flatMap_map]
  simp

end RoadRouting.Text
