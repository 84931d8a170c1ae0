import Mathlib.Tactic.SplitIfs
import StubSdk.Proofs.LevelChange

/-!
Level names, byte by byte: a text names a level exactly when its UTF-8 bytes and those of the
level's name agree once ASCII letters are lowered. The comparisons by character and by byte
agree because the names are ASCII and no byte of a character outside ASCII is an ASCII byte.
-/

namespace StubSdk

namespace Text

/-- ASCII lower-casing of one byte: the bytes of `A` to `Z` become those of `a` to `z`, and
every other byte is kept. -/
def asciiLowerByte (b : UInt8) : UInt8 :=
  if 65 ≤ b.toNat ∧ b.toNat ≤ 90 then b + 32 else b

/-- The UTF-8 bytes of a text, each lowered as ASCII. -/
def asciiLoweredBytes (s : String) : List UInt8 :=
  s.toUTF8.data.toList.map asciiLowerByte

/-! ## Characters and their bytes -/

theorem toList_toUTF8 (s : String) :
    s.toUTF8.data.toList = s.toList.flatMap String.utf8EncodeChar := by
  rw [String.toUTF8_eq_toByteArray, ← String.utf8Encode_toList, List.utf8Encode,
    List.toList_data_toByteArray]

/-- An ASCII character is written as its one byte. -/
theorem utf8EncodeChar_of_lt {c : Char} (h : c.toNat < 128) :
    String.utf8EncodeChar c = [c.toUInt8] :=
  String.utf8EncodeChar_eq_singleton (Char.utf8Size_eq_one_iff.2 (UInt32.le_iff_toNat_le.2 (by
    change c.toNat ≤ 127
    omega)))

/-- A character outside ASCII is written starting with a byte from 128 on. -/
theorem utf8EncodeChar_of_le {c : Char} (h : 128 ≤ c.toNat) :
    ∃ b bs, String.utf8EncodeChar c = b :: bs ∧ 128 ≤ b.toNat := by
  unfold String.utf8EncodeChar
  simp only [Char.toNat_val]
  split_ifs
  · omega
  all_goals exact ⟨_, _, rfl, by simp only [UInt8.toNat_ofNat']; omega⟩

theorem toNat_toUInt8 (c : Char) : c.toUInt8.toNat = c.toNat % 256 := by
  rw [← Char.toUInt8_val, UInt32.toNat_toUInt8, Char.toNat_val]

theorem toUInt8_inj {c d : Char} (hc : c.toNat < 256) (hd : d.toNat < 256) :
    c.toUInt8 = d.toUInt8 ↔ c = d := by
  rw [← UInt8.toNat_inj, toNat_toUInt8, toNat_toUInt8, Nat.mod_eq_of_lt hc, Nat.mod_eq_of_lt hd,
    Char.toNat_inj]

/-- Lowering a character moves the code points of `A` to `Z` up by 32 and keeps every other. -/
theorem toNat_toLower (c : Char) :
    c.toLower.toNat = if 65 ≤ c.toNat ∧ c.toNat ≤ 90 then c.toNat + 32 else c.toNat := by
  unfold Char.toLower
  split
  · rename_i h
    have hupper : 65 ≤ c.toNat ∧ c.toNat ≤ 90 := by
      simpa [UInt32.le_iff_toNat_le] using h
    rw [Char.toNat_mk, if_pos hupper, UInt32.toNat_add, Char.toNat_val]
    simp
    omega
  · rename_i h
    have hupper : ¬ (65 ≤ c.toNat ∧ c.toNat ≤ 90) := by
      simpa [UInt32.le_iff_toNat_le] using h
    rw [if_neg hupper]

theorem toNat_toLower_lt {c : Char} (h : c.toNat < 128) : c.toLower.toNat < 128 := by
  rw [toNat_toLower]
  split_ifs <;> omega

theorem toNat_toLower_of_le {c : Char} (h : 128 ≤ c.toNat) : c.toLower.toNat = c.toNat := by
  rw [toNat_toLower, if_neg (by omega)]

/-- On an ASCII character, lowering its byte gives the byte of the lowered character. -/
theorem asciiLowerByte_toUInt8 {c : Char} (h : c.toNat < 128) :
    asciiLowerByte c.toUInt8 = c.toLower.toUInt8 := by
  apply UInt8.toNat_inj.1
  have hbyte : c.toUInt8.toNat = c.toNat := by
    rw [toNat_toUInt8]
    omega
  rw [asciiLowerByte, hbyte, toNat_toUInt8, toNat_toLower]
  split_ifs
  · rw [UInt8.toNat_add, hbyte]
    simp
  · rw [hbyte]
    omega

theorem asciiLowerByte_of_le {b : UInt8} (h : 128 ≤ b.toNat) : asciiLowerByte b = b := by
  rw [asciiLowerByte, if_neg (by omega)]

/-- Against ASCII characters, lowered UTF-8 bytes agree exactly when the characters agree once
ASCII letters are lowered. -/
theorem map_asciiLowerByte_eq_iff {cs ds : List Char} (hds : ∀ d ∈ ds, d.toNat < 128) :
    (cs.flatMap String.utf8EncodeChar).map asciiLowerByte =
        (ds.flatMap String.utf8EncodeChar).map asciiLowerByte ↔
      cs.map Char.toLower = ds.map Char.toLower := by
  induction cs generalizing ds with
  | nil =>
    cases ds with
    | nil => simp
    | cons d ds => simp [utf8EncodeChar_of_lt (hds d List.mem_cons_self)]
  | cons c cs ih =>
    cases ds with
    | nil => simp [String.utf8EncodeChar_ne_nil]
    | cons d ds =>
      have hd := hds d List.mem_cons_self
      have hds' : ∀ d ∈ ds, d.toNat < 128 := fun d' h => hds d' (List.mem_cons_of_mem d h)
      by_cases hc : c.toNat < 128
      · simp only [List.flatMap_cons, utf8EncodeChar_of_lt hc, utf8EncodeChar_of_lt hd,
          List.singleton_append, List.map_cons, List.cons.injEq, asciiLowerByte_toUInt8 hc,
          asciiLowerByte_toUInt8 hd, ih hds']
        rw [toUInt8_inj (by have := toNat_toLower_lt hc; omega)
          (by have := toNat_toLower_lt hd; omega)]
      · -- the first byte of `c` is from 128 on, and so is its lowered code point
        obtain ⟨b, bs, hb, hb128⟩ := utf8EncodeChar_of_le (Nat.le_of_not_lt hc)
        have hbyte : asciiLowerByte b ≠ asciiLowerByte d.toUInt8 := by
          rw [asciiLowerByte_of_le hb128, asciiLowerByte_toUInt8 hd]
          intro h
          have hnat := congrArg UInt8.toNat h
          rw [toNat_toUInt8] at hnat
          have := toNat_toLower_lt hd
          omega
        have hchar : c.toLower ≠ d.toLower := by
          intro h
          have hnat := congrArg Char.toNat h
          rw [toNat_toLower_of_le (Nat.le_of_not_lt hc)] at hnat
          have := toNat_toLower_lt hd
          omega
        simp [List.flatMap_cons, hb, utf8EncodeChar_of_lt hd, hbyte, hchar]

end Text

namespace Level

theorem names_ascii : ∀ l ∈ all, (l.name.toList.all fun c => c.toNat < 128) = true := by
  decide

theorem name_ascii (l : Level) : ∀ c ∈ l.name.toList, c.toNat < 128 := by
  intro c hc
  simpa using List.all_eq_true.1 (names_ascii l (mem_all l)) c hc

theorem lowered_names_distinct : ∀ l ∈ all, ∀ l' ∈ all,
    l.name.toList.map Char.toLower = l'.name.toList.map Char.toLower → l = l' := by
  decide

theorem sameIgnoringAsciiCase_iff (a b : String) :
    sameIgnoringAsciiCase a b = true ↔ a.toList.map Char.toLower = b.toList.map Char.toLower := by
  simp [sameIgnoringAsciiCase]

/-- A text matches a level's name character by character exactly when it does byte by byte. -/
theorem asciiLoweredBytes_eq_iff (s : String) (l : Level) :
    Text.asciiLoweredBytes s = Text.asciiLoweredBytes l.name ↔
      sameIgnoringAsciiCase l.name s = true := by
  rw [Text.asciiLoweredBytes, Text.asciiLoweredBytes, Text.toList_toUTF8, Text.toList_toUTF8,
    Text.map_asciiLowerByte_eq_iff (name_ascii l), sameIgnoringAsciiCase_iff, eq_comm]

/-- The level a text names is the one whose name it matches: no two names match one text. -/
theorem parse?_eq_some_iff (s : String) (l : Level) :
    parse? s = some l ↔ sameIgnoringAsciiCase l.name s = true := by
  unfold parse?
  constructor
  · exact List.find?_some
  · intro h
    obtain ⟨l', hfound⟩ := Option.isSome_iff_exists.1
      ((List.find?_isSome (p := fun l : Level => sameIgnoringAsciiCase l.name s)).2
        ⟨l, mem_all l, h⟩)
    have h' := List.find?_some hfound
    rw [sameIgnoringAsciiCase_iff] at h h'
    rw [hfound, lowered_names_distinct l' (mem_all l') l (mem_all l) (h'.trans h.symm)]

end Level

namespace Envelope

/-- What setting the log level by name answers is what the work of setting it answers. -/
theorem setLogLevel_result (e : Envelope) (name : String) (cancelled : Bool) :
    (e.setLogLevel name cancelled).2.1 = (applyLevel name e).2 := by
  rw [setLogLevel, run_result, applyLevel_traceEntry_snd]

/-- The work of setting the log level fails quoting the name when it names no level, and
otherwise answers what the logger answers for the level. -/
theorem applyLevel_snd (e : Envelope) (name : String) :
    (applyLevel name e).2 =
      (Level.parse? name).elim (.error (Failure.unknownLevel e.component name))
        fun l => (e.logger.setLevel l).map fun _ => () := by
  cases hparse : Level.parse? name with
  | none => rw [applyLevel_of_unknown e name hparse]; rfl
  | some l =>
    rw [Option.elim_some]
    cases hset : e.logger.setLevel l with
    | error f => rw [applyLevel_of_refused e name hparse hset]; rfl
    | ok lg => rw [applyLevel_of_taken e name hparse hset]; rfl

end Envelope

/-- A text names a level exactly when their bytes agree up to ASCII case. -/
theorem level_names_match_bytes_up_to_ascii_case (s : String) :
    (∀ l : Level, Level.parse? s = some l ↔
      Text.asciiLoweredBytes s = Text.asciiLoweredBytes l.name) ∧
    (Level.parse? s = none ↔ ∀ l : Level, Text.asciiLoweredBytes s ≠ Text.asciiLoweredBytes l.name) ∧
    (Level.isValidName s = true ↔
      ∃ l : Level, Text.asciiLoweredBytes s = Text.asciiLoweredBytes l.name) ∧
    (∀ lg : Logger, lg.isValidLevelName s = true ↔
      ∃ l : Level, Text.asciiLoweredBytes s = Text.asciiLoweredBytes l.name) ∧
    (∀ (e : Envelope) (cancelled : Bool), (e.setLogLevel s cancelled).2.1 =
      (Level.parse? s).elim
        (.error (.invalidArgument e.component ("unknown log level " ++ Text.quote s)))
        fun l => (e.logger.setLevel l).map fun _ => ()) ∧
    (∀ l : Level, Level.parse? l.name = some l) := by
  have hsome : ∀ l : Level, Level.parse? s = some l ↔
      Text.asciiLoweredBytes s = Text.asciiLoweredBytes l.name := fun l => by
    rw [Level.parse?_eq_some_iff, Level.asciiLoweredBytes_eq_iff]
  have hvalid : Level.isValidName s = true ↔
      ∃ l : Level, Text.asciiLoweredBytes s = Text.asciiLoweredBytes l.name := by
    simp only [Level.isValidName, Option.isSome_iff_exists, hsome]
  refine ⟨hsome, ?_, hvalid, fun _ => hvalid, ?_, ?_⟩
  · rw [Option.eq_none_iff_forall_ne_some]
    exact forall_congr' fun l => (hsome l).not
  · intro e cancelled
    rw [Envelope.setLogLevel_result, Envelope.applyLevel_snd]
    rfl
  · intro l
    rw [Level.parse?_eq_some_iff, Level.sameIgnoringAsciiCase_iff]

example : Level.parse? "iNfO" = some .info ∧ Level.parse? "\u0131nfo" = none ∧
    Level.parse? " INFO" = none := by
  decide

end StubSdk
