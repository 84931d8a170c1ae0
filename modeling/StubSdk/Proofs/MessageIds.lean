import StubSdk.Failure

/-!
Message ids: `SZSDK`, the four-digit component id and the code padded to at least four digits
and never cut. Both halves are read back with `Nat.ofDigitChars`, so a message id names its
component and its code.
-/

namespace StubSdk

namespace Text

theorem toList_decimal (n : Nat) : (decimal n).toList = Nat.toDigits 10 n :=
  String.toList_ofList

theorem toList_padDecimal (width n : Nat) :
    (padDecimal width n).toList =
      List.replicate (width - (Nat.toDigits 10 n).length) '0' ++ Nat.toDigits 10 n :=
  String.toList_ofList

theorem ofDigitChars_decimal (n : Nat) : Nat.ofDigitChars 10 (decimal n).toList 0 = n := by
  rw [toList_decimal, Nat.ofDigitChars_ten_toDigits]

/-- Zeros in front change nothing in the number a padded numeral spells. -/
theorem ofDigitChars_padDecimal (width n : Nat) :
    Nat.ofDigitChars 10 (padDecimal width n).toList 0 = n := by
  rw [toList_padDecimal, Nat.ofDigitChars_append, Nat.ofDigitChars_replicate_zero, Nat.mul_zero,
    Nat.ofDigitChars_ten_toDigits]

/-- A padded numeral is the zeros that are missing up to `width`, then the whole numeral. -/
theorem padDecimal_eq (width n : Nat) :
    padDecimal width n =
      String.ofList (List.replicate (width - (decimal n).length) '0') ++ decimal n := by
  apply String.toList_injective
  rw [toList_padDecimal, String.toList_append, String.toList_ofList, toList_decimal,
    ← String.length_toList, toList_decimal]

/-- A padded numeral has `width` digits, or more when the number needs more: it is never cut. -/
theorem length_padDecimal (width n : Nat) :
    (padDecimal width n).length = max width (decimal n).length := by
  rw [← String.length_toList, toList_padDecimal, ← String.length_toList, toList_decimal,
    List.length_append, List.length_replicate]
  omega

end Text

namespace Component

theorem id_injective : Function.Injective Component.id := by
  intro c c' h
  cases c <;> cases c' <;> simp_all [id]

theorem length_decimal_id (c : Component) : (Text.decimal c.id).length = 4 := by
  cases c <;> decide

theorem toList_messageId (c : Component) (code : Nat) :
    (c.messageId code).toList =
      ("SZSDK".toList ++ (Text.decimal c.id).toList) ++ (Text.padDecimal 4 code).toList := by
  simp only [messageId, String.toList_append]

/-- The component and the code are read back from a message id: its first nine characters
hold the component's id, and the rest spells the code. -/
theorem eq_of_messageId_eq {c c' : Component} {code code' : Nat}
    (h : c.messageId code = c'.messageId code') : c = c' ∧ code = code' := by
  have hchars := congrArg String.toList h
  rw [toList_messageId, toList_messageId] at hchars
  have hlength : ("SZSDK".toList ++ (Text.decimal c.id).toList).length =
      ("SZSDK".toList ++ (Text.decimal c'.id).toList).length := by
    simp only [List.length_append, String.length_toList, length_decimal_id]
  obtain ⟨hlead, hpadded⟩ := List.append_inj hchars hlength
  have hid := (List.append_inj hlead rfl).2
  constructor
  · apply id_injective
    calc c.id = Nat.ofDigitChars 10 (Text.decimal c.id).toList 0 := (Text.ofDigitChars_decimal _).symm
      _ = Nat.ofDigitChars 10 (Text.decimal c'.id).toList 0 := by rw [hid]
      _ = c'.id := Text.ofDigitChars_decimal _
  · calc code = Nat.ofDigitChars 10 (Text.padDecimal 4 code).toList 0 :=
          (Text.ofDigitChars_padDecimal _ _).symm
      _ = Nat.ofDigitChars 10 (Text.padDecimal 4 code').toList 0 := by rw [hpadded]
      _ = code' := Text.ofDigitChars_padDecimal _ _

theorem length_messageId (c : Component) (code : Nat) :
    (c.messageId code).length = 9 + max 4 (Text.decimal code).length := by
  rw [← String.length_toList, toList_messageId, List.length_append, List.length_append,
    String.length_toList, String.length_toList, String.length_toList, length_decimal_id,
    Text.length_padDecimal]
  rfl

end Component

/-- A message id names its component and its code, and nothing else does. -/
theorem message_ids_name_component_and_code_unambiguously :
    (∀ c : Component, c.id ∈ [6031, 6032, 6033, 6034, 6036]) ∧
    (∀ (c : Component) (code : Nat), c.messageId code =
      "SZSDK" ++ toString c.id ++
        String.ofList (List.replicate (4 - (toString code).length) '0') ++ toString code) ∧
    (∀ (c : Component) (code : Nat),
      (c.messageId code).length = 9 + max 4 (toString code).length) ∧
    (∀ (c c' : Component) (code code' : Nat),
      c.messageId code = c'.messageId code' ↔ c = c' ∧ code = code') ∧
    (∀ (c : Component) (code : Nat) (message : String),
      (Failure.sdk c code message).render = c.messageId code ++ ": " ++ message) := by
  refine ⟨?ids, ?form, ?length, ?injective, fun _ _ _ => rfl⟩
  case ids =>
    intro c
    cases c <;> simp [Component.id]
  case form =>
    intro c code
    simp only [Component.messageId, Text.padDecimal_eq, String.append_assoc]
    rfl
  case length => exact Component.length_messageId
  case injective =>
    intro c c' code code'
    constructor
    · exact Component.eq_of_messageId_eq
    · rintro ⟨rfl, rfl⟩
      rfl

example : Component.engine.messageId 7 = "SZSDK60340007" ∧
    Component.product.messageId 123456 = "SZSDK6036123456" := by
  decide

end StubSdk
