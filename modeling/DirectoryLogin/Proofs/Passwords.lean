import DirectoryLogin.Proofs.Text.Coding
import DirectoryLogin.Registry
/-!
# Comparing Passwords

A password becomes a value when an identity is made of it, and bytes when it is compared with a stored one. Neither
loses anything of it. Only a text that is not well formed has no bytes, and then it is not compared at all.

- `Matcher.compare_plain`: what comparing passwords as they are says, and when it fails.
-/

namespace DirectoryLogin

/-! ## §1 Values -/

theorem Password.value_injective : Function.Injective Password.value := by
  intro p q h
  cases p with
  | text s =>
    cases q with
    | text t => exact congrArg Password.text (Value.text.inj h)
    | broken b => cases h
  | broken b =>
    cases q with
    | text t => cases h
    | broken c => exact congrArg Password.broken (Value.broken.inj h)

theorem Password.null_ne_value (p : Password) : Value.null ≠ p.value := by
  cases p with
  | text s => nofun
  | broken b => nofun

theorem Value.ofPassword_injective : Function.Injective Value.ofPassword := by
  intro x y h
  rcases x with _ | p
  · rcases y with _ | q
    · rfl
    · exact absurd h q.null_ne_value
  · rcases y with _ | q
    · exact absurd h.symm p.null_ne_value
    · exact congrArg some (Password.value_injective h)

/-! ## §2 Bytes -/

theorem Text.utf8_injective : Function.Injective Text.utf8 := by
  intro s t h
  have hdecoded := congrArg decodeUtf8 h
  rwa [utf8, utf8, decodeUtf8_utf8Chars, decodeUtf8_utf8Chars, String.ofList_toList, String.ofList_toList] at hdecoded

/-- **Comparing passwords as they are**: well-formed ones match if they are the same, and the first one that is not well
formed, the presented one or else the stored one, makes the comparison fail. -/
theorem Matcher.compare_plain (presented stored : Password) :
    Matcher.plain.compare (some presented) (some stored) =
      match presented.flaw?.or stored.flaw? with
      | some flaw => .error (Password.unencodable flaw)
      | none => .ok (presented == stored) := by
  cases presented with
  | broken b => rfl
  | text s =>
    cases stored with
    | broken b => rfl
    | text t =>
      have hbytes : (Text.utf8 s == Text.utf8 t) = (Password.text s == Password.text t) := by
        rw [Bool.eq_iff_iff, beq_iff_eq, beq_iff_eq, Text.utf8_injective.eq_iff, Password.text.injEq]
      exact congrArg Except.ok hbytes

end DirectoryLogin
