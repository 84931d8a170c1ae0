import Mathlib.Tactic.SplitIfs
import StubSdk.Details
import StubSdk.Failure

/-!
Quoted texts and written details are read back. Escaped characters are read back one at a
time (`readEscaped`) and the first unescaped double quote closes the text, so a quoted text is
read back from the front of whatever follows it, and written details give back their entries.
-/

namespace StubSdk

namespace Text

/-! ## Reading one escaped character back -/

/-- The value of a lower-case hexadecimal digit. -/
def hexDigitValue (c : Char) : Nat :=
  if c.toNat < 'a'.toNat then c.toNat - '0'.toNat else c.toNat - 'a'.toNat + 10

/-- The number that lower-case hexadecimal digits spell, most significant first. -/
def hexValue (cs : List Char) : Nat :=
  cs.foldl (fun n c => 16 * n + hexDigitValue c) 0

/-- The character a one-letter escape stands for. -/
def unescapeLetter? : Char → Option Char
  | '"' => some '"'
  | '\\' => some '\\'
  | 'n' => some '\n'
  | 'r' => some '\r'
  | 't' => some '\t'
  | '0' => some '\x00'
  | _ => none

/-- Reads what follows a backslash: a one-letter escape, or `u` and a code point in
hexadecimal between braces. -/
def readEscape : List Char → Option (Char × List Char)
  | 'u' :: '\x7b' :: rest =>
    match rest.dropWhile (· != '\x7d') with
    | _ :: after => some (Char.ofNat (hexValue (rest.takeWhile (· != '\x7d'))), after)
    | [] => none
  | e :: rest => (unescapeLetter? e).map (·, rest)
  | [] => none

/-- Reads one character back from the front of its escaped form, with what follows it. -/
def readEscaped : List Char → Option (Char × List Char)
  | [] => none
  | c :: rest => if c = '\\' then readEscape rest else some (c, rest)

/-- The sixteen digits one by one: each is read back as its value, and none is a closing
brace. -/
theorem digitChar_readBack : ∀ d ∈ List.range 16,
    hexDigitValue d.digitChar = d ∧ d.digitChar ≠ '\x7d' := by
  decide

theorem hexValue_append_singleton (cs : List Char) (c : Char) :
    hexValue (cs ++ [c]) = 16 * hexValue cs + hexDigitValue c := by
  simp only [hexValue, List.foldl_append, List.foldl_cons, List.foldl_nil]

/-- The hexadecimal digits of a number spell it, and hold no closing brace. -/
theorem hexDigits_readBack (n : Nat) : hexValue (hexDigits n) = n ∧ '\x7d' ∉ hexDigits n := by
  induction n using Nat.base_induction 16 (by decide) with
  | single m hm =>
    obtain ⟨hvalue, hbrace⟩ := digitChar_readBack m (List.mem_range.2 hm)
    rw [hexDigits, Nat.toDigits_of_lt_base hm]
    exact ⟨by simp [hexValue, hvalue], fun h => hbrace (List.mem_singleton.1 h).symm⟩
  | digit m k hk hm ih =>
    obtain ⟨hvalue, hbrace⟩ := digitChar_readBack k (List.mem_range.2 hk)
    rw [hexDigits, ← Nat.toDigits_append_toDigits (by decide) hm hk, Nat.toDigits_of_lt_base hk]
    refine ⟨?_, ?_⟩
    · rw [hexValue_append_singleton, ← hexDigits, ih.1, hvalue]
    · simp only [List.mem_append, List.mem_singleton, not_or]
      exact ⟨ih.2, fun h => hbrace h.symm⟩

theorem readEscape_codePoint (n : Nat) (r : List Char) :
    readEscape ('u' :: '\x7b' :: (hexDigits n ++ '\x7d' :: r)) = some (Char.ofNat n, r) := by
  obtain ⟨hvalue, hbrace⟩ := hexDigits_readBack n
  have hdigits : ∀ a ∈ hexDigits n, (a != '\x7d') = true := by
    intro a ha
    simpa using fun h : a = '\x7d' => hbrace (h ▸ ha)
  simp only [readEscape, List.dropWhile_append_of_pos hdigits,
    List.takeWhile_append_of_pos hdigits]
  simp [hvalue]

/-- Each character is read back from its escape, and what follows the escape is left as it
was. -/
theorem readEscaped_escapeChar (c : Char) (r : List Char) :
    readEscaped (escapeChar c ++ r) = some (c, r) := by
  unfold escapeChar
  split_ifs with hquote hback hnewline hreturn htab hnul hcode
  · subst hquote; rfl
  · subst hback; rfl
  · subst hnewline; rfl
  · subst hreturn; rfl
  · subst htab; rfl
  · subst hnul; rfl
  · simp [readEscaped, readEscape_codePoint]
  · simp [readEscaped, hback]

/-- Escapes are uniquely decodable: an escape is never the start of another one. -/
theorem escapeChar_append_cancel {c d : Char} {X Y : List Char}
    (h : escapeChar c ++ X = escapeChar d ++ Y) : c = d ∧ X = Y := by
  have hread := congrArg readEscaped h
  rw [readEscaped_escapeChar, readEscaped_escapeChar] at hread
  exact Prod.mk.inj (Option.some.inj hread)

/-- No escape starts with a double quote. -/
theorem escapeChar_append_ne_quote (c : Char) (X Y : List Char) : escapeChar c ++ X ≠ '"' :: Y := by
  unfold escapeChar
  split_ifs <;> simp_all

theorem escapeChars_cons (c : Char) (cs : List Char) :
    escapeChars (c :: cs) = escapeChar c ++ escapeChars cs :=
  List.flatMap_cons

/-- Escaped characters are read back up to the first double quote that follows them. -/
theorem escapeChars_append_quote_cancel {cs ds X Y : List Char}
    (h : escapeChars cs ++ '"' :: X = escapeChars ds ++ '"' :: Y) : cs = ds ∧ X = Y := by
  induction cs generalizing ds with
  | nil =>
    cases ds with
    | nil => simpa [escapeChars] using h
    | cons d ds =>
      rw [escapeChars_cons, List.append_assoc] at h
      exact absurd h.symm (escapeChar_append_ne_quote d _ X)
  | cons c cs ih =>
    cases ds with
    | nil =>
      rw [escapeChars_cons, List.append_assoc] at h
      exact absurd h (escapeChar_append_ne_quote c _ Y)
    | cons d ds =>
      rw [escapeChars_cons, escapeChars_cons, List.append_assoc, List.append_assoc] at h
      obtain ⟨rfl, hrest⟩ := escapeChar_append_cancel h
      obtain ⟨rfl, hX⟩ := ih hrest
      exact ⟨rfl, hX⟩

theorem toList_quote (s : String) : (quote s).toList = '"' :: (escapeChars s.toList ++ ['"']) := by
  rw [quote, String.toList_ofList, List.cons_append]

/-- A quoted text is read back from the front of whatever follows it. -/
theorem quote_append_cancel {s t : String} {X Y : List Char}
    (h : (quote s).toList ++ X = (quote t).toList ++ Y) : s = t ∧ X = Y := by
  rw [toList_quote, toList_quote] at h
  simp only [List.cons_append, List.append_assoc, List.cons.injEq, true_and] at h
  obtain ⟨hchars, hX⟩ := escapeChars_append_quote_cancel h
  exact ⟨String.toList_injective hchars, hX⟩

end Text

/-- The failure for a name that denotes no level quotes the name, so tells names apart. -/
theorem Failure.eq_of_unknownLevel_eq {c c' : Component} {s t : String}
    (h : Failure.unknownLevel c s = Failure.unknownLevel c' t) : s = t := by
  have hmessage := (Failure.invalidArgument.inj h).2
  have hquote : Text.quote s = Text.quote t := (String.append_right_inj _).1 hmessage
  have hchars : (Text.quote s).toList ++ [] = (Text.quote t).toList ++ [] := by rw [hquote]
  exact (Text.quote_append_cancel hchars).1

/-! ## Reading written details back -/

namespace Details

theorem toList_separator : ", ".toList = [',', ' '] := by decide

theorem toList_renderEntry (e : String × String) :
    (renderEntry e).toList = (Text.quote e.1).toList ++ ':' :: ' ' :: (Text.quote e.2).toList := by
  have hcolon : ": ".toList = [':', ' '] := by decide
  simp only [renderEntry, String.toList_append, hcolon, List.append_assoc, List.cons_append,
    List.nil_append]

/-- A written entry starts with the double quote of its key. -/
theorem toList_renderEntry_eq_cons (e : String × String) :
    ∃ t, (renderEntry e).toList = '"' :: t :=
  ⟨_, by rw [toList_renderEntry, Text.toList_quote, List.cons_append]⟩

/-- A written entry is read back from the front of whatever follows it. -/
theorem renderEntry_append_cancel {e e' : String × String} {X Y : List Char}
    (h : (renderEntry e).toList ++ X = (renderEntry e').toList ++ Y) : e = e' ∧ X = Y := by
  rw [toList_renderEntry, toList_renderEntry] at h
  simp only [List.append_assoc, List.cons_append] at h
  obtain ⟨hkey, h⟩ := Text.quote_append_cancel h
  simp only [List.cons.injEq, true_and] at h
  obtain ⟨hvalue, hX⟩ := Text.quote_append_cancel h
  exact ⟨Prod.ext hkey hvalue, hX⟩

theorem toList_intercalate_cons (sep t : String) (l : List String) :
    (sep.intercalate (t :: l)).toList = t.toList ++ l.flatMap fun u => sep.toList ++ u.toList := by
  induction l generalizing t with
  | nil => simp
  | cons u l ih =>
    rw [String.intercalate_cons_cons, String.toList_append, String.toList_append, ih,
      List.flatMap_cons, List.append_assoc, List.append_assoc]

theorem toList_render_nil : (render ⟨[]⟩).toList = ['\x7b', '\x7d'] := by decide

theorem toList_render_cons (e : String × String) (es : List (String × String)) :
    (render ⟨e :: es⟩).toList =
      '\x7b' :: ((renderEntry e).toList ++
        ((es.flatMap fun e => ',' :: ' ' :: (renderEntry e).toList) ++ ['\x7d'])) := by
  have hopen : "\x7b".toList = ['\x7b'] := by decide
  have hclose : "\x7d".toList = ['\x7d'] := by decide
  simp only [render, String.toList_append, List.map_cons, toList_intercalate_cons,
    List.flatMap_map, toList_separator, hopen, hclose, List.append_assoc, List.cons_append,
    List.nil_append]

/-- The entries after the first, each after a comma and a space, are read back up to the
closing brace. -/
theorem separated_append_cancel {es es' : List (String × String)} {X Y : List Char}
    (h : (es.flatMap fun e => ',' :: ' ' :: (renderEntry e).toList) ++ '\x7d' :: X =
      (es'.flatMap fun e => ',' :: ' ' :: (renderEntry e).toList) ++ '\x7d' :: Y) :
    es = es' ∧ X = Y := by
  induction es generalizing es' with
  | nil =>
    cases es' with
    | nil => simpa using h
    | cons e' es' => simp at h
  | cons e es ih =>
    cases es' with
    | nil => simp at h
    | cons e' es' =>
      simp only [List.flatMap_cons, List.cons_append, List.cons.injEq, true_and,
        List.append_assoc] at h
      obtain ⟨rfl, hrest⟩ := renderEntry_append_cancel h
      obtain ⟨rfl, hX⟩ := ih hrest
      exact ⟨rfl, hX⟩

/-- Different details are written differently. -/
theorem render_injective : Function.Injective render := by
  rintro ⟨es⟩ ⟨es'⟩ h
  have hchars := congrArg String.toList h
  cases es with
  | nil =>
    cases es' with
    | nil => rfl
    | cons e' es' =>
      obtain ⟨t, ht⟩ := toList_renderEntry_eq_cons e'
      simp [toList_render_nil, toList_render_cons, ht] at hchars
  | cons e es =>
    cases es' with
    | nil =>
      obtain ⟨t, ht⟩ := toList_renderEntry_eq_cons e
      simp [toList_render_nil, toList_render_cons, ht] at hchars
    | cons e' es' =>
      rw [toList_render_cons, toList_render_cons, List.cons.injEq] at hchars
      obtain ⟨rfl, hrest⟩ := renderEntry_append_cancel hchars.2
      obtain ⟨rfl, -⟩ := separated_append_cancel hrest
      rfl

end Details

/-- Written details determine their entries. -/
theorem written_details_determine_their_entries :
    (∀ (s t : String) (X Y : List Char),
      (Text.quote s).toList ++ X = (Text.quote t).toList ++ Y ↔ s = t ∧ X = Y) ∧
    (∀ d₁ d₂ : Details, d₁.render = d₂.render ↔ d₁ = d₂) ∧
    (∀ d₁ d₂ : Details, (∃ k, d₁.get? k ≠ d₂.get? k) → d₁.render ≠ d₂.render) := by
  refine ⟨fun s t X Y => ⟨Text.quote_append_cancel, ?_⟩, fun d₁ d₂ => ⟨?_, ?_⟩, ?_⟩
  · rintro ⟨rfl, rfl⟩
    rfl
  · exact fun h => Details.render_injective h
  · rintro rfl
    rfl
  · rintro d₁ d₂ ⟨k, hk⟩ h
    exact hk (by rw [Details.render_injective h])

end StubSdk
