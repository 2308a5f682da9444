import PokerClient.Json.Parser
import PokerClient.Json.Printer

/-!
# Texts that are read back

A string is read back from its written form whatever comes after the closing
quote, since a string of characters has no half of a surrogate pair. An object
that has only strings is read back field by field.
-/

namespace PokerClient
namespace Json

open Text

theorem stringUnits_quote (start : List Char) (read : List Nat) (rest : List Char) :
    stringUnits start read ('"' :: rest) = .ok (read.reverse, rest) := by
  rw [stringUnits.eq_def]
  exact if_pos rfl

theorem stringUnits_plain (start : List Char) (read : List Nat) {c : Char} (hquote : c ≠ '"')
    (hslash : c ≠ '\\') (hc : ¬ c.toNat < 0x20) (rest : List Char) :
    stringUnits start read (c :: rest) = stringUnits start (c.toNat :: read) rest := by
  rw [stringUnits.eq_def]
  dsimp only
  rw [if_neg hquote, if_neg hslash, if_neg hc]

/-- The escape of a control character has two digits that matter. -/
theorem hexDigits_control : ∀ n < 0x20,
    hexDigits 4 n = ['0', '0', Nat.digitChar (n / 16), Nat.digitChar (n % 16)] := by decide

theorem hex4?_control : ∀ n < 0x20,
    hex4? '0' '0' (Nat.digitChar (n / 16)) (Nat.digitChar (n % 16)) = some n := by decide

/-- One character is read back. Something has to follow it, as it does in front of
a closing quote. -/
theorem stringUnits_escapeChar (start : List Char) (read : List Nat) (c d : Char)
    (rest : List Char) :
    stringUnits start read (escapeChar c ++ d :: rest) =
      stringUnits start (c.toNat :: read) (d :: rest) := by
  unfold escapeChar
  split
  · rfl
  · rfl
  · rfl
  · rfl
  · rfl
  · rfl
  · rfl
  · rename_i hquote hslash _ _ _ _ _
    by_cases hcontrol : c.toNat < 0x20
    · rw [if_pos hcontrol, hexDigits_control c.toNat hcontrol]
      simp only [List.cons_append, List.nil_append]
      rw [stringUnits]
      simp only [hex4?_control c.toNat hcontrol]
      rfl
    · rw [if_neg hcontrol, List.singleton_append]
      exact stringUnits_plain start read hquote hslash hcontrol (d :: rest)

theorem stringUnits_written (start : List Char) (read : List Nat) (cs rest : List Char) :
    stringUnits start read (cs.flatMap escapeChar ++ '"' :: rest) =
      .ok (read.reverse ++ cs.map Char.toNat, rest) := by
  induction cs generalizing read with
  | nil => simp [stringUnits_quote]
  | cons c cs ih =>
    -- An escape with digits is only read if there is more text, here at least the quote.
    obtain ⟨d, more, hmore⟩ : ∃ d more, cs.flatMap escapeChar ++ '"' :: rest = d :: more := by
      cases cs.flatMap escapeChar with
      | nil => exact ⟨_, _, rfl⟩
      | cons d more => exact ⟨_, _, rfl⟩
    have hrest := ih (c.toNat :: read)
    rw [List.flatMap_cons, List.append_assoc, hmore, stringUnits_escapeChar, ← hmore, hrest]
    simp

theorem isHigh_char (c : Char) : Wide.isHigh c.toNat = false := by
  have hvalid : c.toNat < 0xD800 ∨ 0xDFFF < c.toNat ∧ c.toNat < 0x110000 := c.valid
  unfold Wide.isHigh
  rw [Bool.and_eq_false_iff, decide_eq_false_iff_not, decide_eq_false_iff_not]
  omega

/-- Characters are no halves, so that none of them are joined. -/
theorem joinUnits_chars (joined : List Nat) (cs : List Char) :
    joinUnits joined (cs.map Char.toNat) = joined.reverse ++ cs.map Char.toNat := by
  induction cs generalizing joined with
  | nil => simp [joinUnits]
  | cons c cs ih =>
    cases cs with
    | nil => simp [joinUnits]
    | cons d cs =>
      have hrest := ih (c.toNat :: joined)
      simp only [List.map_cons] at hrest ⊢
      rw [joinUnits, isHigh_char, Bool.false_and, if_neg Bool.false_ne_true, hrest]
      simp

theorem readString_written (d : Dialect) (cs rest : List Char) :
    readString d (cs.flatMap escapeChar ++ '"' :: rest) = .ok (cs.map Char.toNat, rest) := by
  unfold readString
  rw [stringUnits_written, List.reverse_nil, List.nil_append]
  dsimp only
  rw [joinUnits_chars, List.reverse_nil, List.nil_append, all_isValidChar,
    Bool.or_true]
  rfl

theorem readScalar_written (d : Dialect) (s : String) (rest : List Char) :
    readScalar d (writeString s ++ rest) = .ok (.str s, rest) := by
  unfold writeString readScalar
  simp only [List.cons_append, List.append_assoc, List.nil_append, readString_written,
    Value.ofPoints_toNat]

theorem readValue_written (d : Dialect) (fuel depth : Nat) (s : String) (rest : List Char) :
    readValue d fuel depth (writeString s ++ rest) = .ok (.str s, rest) := by
  have hscalar := readScalar_written d s rest
  cases depth <;> exact hscalar

/-- The fields of an object of strings, as they stand when all are read. -/
def collect (fields : Fields) (texts : List (String × String)) : Fields :=
  texts.foldl (fun fields f => fields.put f.1 (.str f.2)) fields

/-- Fields with strings as values. -/
def strings (texts : List (String × String)) : Fields := texts.map fun f => (f.1, .str f.2)

theorem skipSpace_cons {c : Char} (hc : isSpace c = false) (rest : List Char) :
    skipSpace (c :: rest) = c :: rest := by
  simp [skipSpace, hc]

theorem skipSpace_writeString (s : String) (rest : List Char) :
    skipSpace (writeString s ++ rest) = writeString s ++ rest := skipSpace_cons (by decide) _

theorem writeFields_head (f : String × String) (texts : List (String × String)) :
    ∃ more, Value.writeFields (strings (f :: texts)) = '"' :: more := by
  cases texts <;> exact ⟨_, rfl⟩

theorem writeString_append (s : String) (rest : List Char) :
    writeString s ++ rest = '"' :: (s.toList.flatMap escapeChar ++ '"' :: rest) := by
  simp [writeString]

section Fields

variable {d : Dialect} {item : Reader Value}
  (hitem : ∀ s rest, item (writeString s ++ rest) = .ok (.str s, rest))
include hitem

/-- The last field is followed by the closing brace. -/
theorem readFields_last (fields : Fields) (fuel : Nat) (name s : String) (rest : List Char) :
    readFields d item fields (fuel + 1)
        (writeString name ++ ':' :: (writeString s ++ '\x7d' :: rest)) =
      .ok (fields.put name (.str s), rest) := by
  rw [writeString_append, readFields, readString_written]
  dsimp only
  rw [skipSpace_cons (by decide)]
  simp only [skipSpace_writeString, hitem, textOfPoints_toNat,
    skipSpace_cons (c := '\x7d') (by decide)]

/-- After any other field there is a comma, and reading goes on behind it. -/
theorem readFields_more (fields : Fields) (fuel : Nat) (name s : String) (rest : List Char) :
    readFields d item fields (fuel + 1)
        (writeString name ++ ':' :: (writeString s ++ ',' :: rest)) =
      readFields d item (fields.put name (.str s)) fuel (skipSpace rest) := by
  rw [writeString_append, readFields, readString_written]
  dsimp only
  rw [skipSpace_cons (by decide)]
  simp only [skipSpace_writeString, hitem, textOfPoints_toNat,
    skipSpace_cons (c := ',') (by decide)]

theorem readFields_written (fields : Fields) (f : String × String)
    (texts : List (String × String)) (fuel : Nat) (hfuel : texts.length < fuel)
    (rest : List Char) :
    readFields d item fields fuel (Value.writeFields (strings (f :: texts)) ++ '\x7d' :: rest) =
      .ok (collect fields (f :: texts), rest) := by
  induction texts generalizing fields f fuel with
  | nil =>
    obtain ⟨fuel, rfl⟩ : ∃ n, fuel = n + 1 := ⟨fuel - 1, by omega⟩
    simp only [strings, List.map_cons, List.map_nil, Value.writeFields, Value.write,
      List.append_assoc, List.cons_append]
    rw [readFields_last hitem]
    rfl
  | cons g texts ih =>
    obtain ⟨fuel, rfl⟩ : ∃ n, fuel = n + 1 := ⟨fuel - 1, by omega⟩
    have hnext := ih (fields.put f.1 (.str f.2)) g fuel (by simpa using hfuel)
    obtain ⟨more, hmore⟩ := writeFields_head g texts
    have hfields : Value.writeFields (strings (f :: g :: texts)) =
        writeString f.1 ++ ':' ::
          (writeString f.2 ++ ',' :: Value.writeFields (strings (g :: texts))) := by
      simp [strings, Value.writeFields, Value.write]
    rw [hfields]
    simp only [List.append_assoc, List.cons_append]
    rw [readFields_more hitem, hmore, List.cons_append, skipSpace_cons (by decide),
      ← List.cons_append, ← hmore, hnext]
    rfl

theorem readNested_written (f : String × String) (texts : List (String × String)) (fuel : Nat)
    (hfuel : texts.length < fuel) :
    readNested d fuel (some item) (Value.write (.object (strings (f :: texts)))) =
      .ok (.object (collect [] (f :: texts)), []) := by
  have hfields := readFields_written (d := d) hitem [] f texts fuel hfuel []
  obtain ⟨more, hmore⟩ := writeFields_head f texts
  rw [hmore] at hfields
  simp only [Value.write, hmore, List.cons_append] at hfields ⊢
  unfold readNested
  simp only [skipSpace_cons (c := '"') (by decide)]
  split
  · rename_i hclosed
    cases hclosed
  · rename_i hreader _
    cases hreader
    rw [hfields]
  · rename_i hreader _
    cases hreader

end Fields

/-- A name, a colon, a value and what follows it take up some text each. -/
theorem length_writeFields (f : String × String) (texts : List (String × String)) :
    texts.length < (Value.writeFields (strings (f :: texts))).length := by
  induction texts generalizing f with
  | nil =>
    simp only [strings, List.map_cons, List.map_nil, Value.writeFields, List.length_append,
      List.length_cons, List.length_nil]
    omega
  | cons g texts ih =>
    have hnext := ih g
    simp only [strings, List.map_cons, Value.writeFields, List.length_append, List.length_cons]
      at hnext ⊢
    omega

/-- An object of strings is read back, where a container may be read at all. -/
theorem parse_written {d : Dialect} (hd : d.depth ≠ some 0) (f : String × String)
    (texts : List (String × String)) :
    parse d (Value.write (.object (strings (f :: texts)))) =
      .ok (.object (collect [] (f :: texts))) := by
  obtain ⟨text, htext⟩ : ∃ text, Value.write (.object (strings (f :: texts))) = '\x7b' :: text :=
    ⟨_, rfl⟩
  obtain ⟨depth, hdepth⟩ : ∃ n, d.depth.getD ('\x7b' :: text).length = n + 1 := by
    cases h : d.depth with
    | none => exact ⟨text.length, rfl⟩
    | some n =>
      cases n with
      | zero => exact absurd h hd
      | succ n => exact ⟨n, rfl⟩
  have hlength := length_writeFields f texts
  have hfuel : texts.length < ('\x7b' :: text).length + 1 := by
    rw [← htext]
    simp only [Value.write, List.length_append, List.length_cons]
    omega
  have hread := readNested_written (d := d)
    (readValue_written d (('\x7b' :: text).length + 1) depth) f texts _ hfuel
  rw [htext] at hread
  unfold parse
  rw [htext, skipSpace_cons (by decide), hdepth, readValue, hread]
  rfl

end Json
end PokerClient
