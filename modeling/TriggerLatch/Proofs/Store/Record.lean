import TriggerLatch.Proofs.Calendar.Written
import TriggerLatch.Proofs.Json.Written

/-!
# Written records

**A written record reads back** (`Record.decode_encode`), whatever its version, its value and its
point in time; so a record that was read keeps its fields when it is rewritten, and stays as it is
from then on, however it was written at first (`Record.rewrite_of_decode`).

The text is scanned piece by piece: the pieces that are the same in every record are evaluated, the
version and the time are read back by the lemmas on numbers and on plain strings.
-/

namespace TriggerLatch

namespace Timestamp

open Json Decimal

theorem all_isPlain_padded (width n : Nat) : (padded width n).all isPlain = true := by
  rw [List.all_eq_true]
  intro c hc
  exact isPlain_of_isDigit (isDigit_of_mem_padded c hc)

theorem all_isPlain_displayYear (y : Int) : (displayYear y).all isPlain = true := by
  unfold displayYear
  split
  · exact all_isPlain_padded _ _
  · rw [List.all_cons, all_isPlain_padded]
    split <;> decide

theorem all_isPlain_displayFraction (n : Nat) : (displayFraction n).all isPlain = true := by
  have hdot : isPlain '.' = true := by decide
  unfold displayFraction
  split
  · rfl
  · split
    · rw [List.all_cons, hdot, all_isPlain_padded]; rfl
    · split <;> rw [List.all_cons, hdot, all_isPlain_padded] <;> rfl

theorem isPlain_of_mem_display (t : Timestamp) : ∀ c ∈ t.display, isPlain c = true := by
  have hdash : isPlain '-' = true := by decide
  have hcolon : isPlain ':' = true := by decide
  have hT : isPlain 'T' = true := by decide
  have hZ : isPlain 'Z' = true := by decide
  rw [← List.all_eq_true]
  simp only [display, List.all_append, List.all_cons, List.all_nil, all_isPlain_padded,
    all_isPlain_displayYear, all_isPlain_displayFraction, hdash, hcolon, hT, hZ, Bool.and_self]

end Timestamp

namespace Record

open Json

/-- The words of a written record. -/
def tokens (r : Record) : List Token :=
  [.opening .curly, .string (ascii "schema_version".toList), .colon,
    .number (ascii (Decimal.digits r.schema.toNat)), .comma,
    .string (ascii "triggered".toList), .colon, .bool r.triggered, .comma,
    .string (ascii "saved_at".toList), .colon, .string (ascii r.savedAt.display),
    .closing .curly]

theorem encode_eq (r : Record) :
    r.encode = ascii "\x7b\"schema_version\":".toList ++
      (ascii (Decimal.digits r.schema.toNat) ++ (ascii ",\"triggered\":".toList ++
        (ascii (flagText r.triggered) ++ (ascii ",\"saved_at\":\"".toList ++
          (ascii r.savedAt.display ++ ascii "\"\x7d".toList))))) := by
  unfold encode display
  rw [ascii_append, ascii_append, ascii_append, ascii_append, ascii_append, ascii_append]
  rw [List.append_assoc, List.append_assoc, List.append_assoc, List.append_assoc, List.append_assoc]

theorem scan_encode (r : Record) : scan r.encode = some r.tokens := by
  have hfirst : ∀ ts, Scanner.run ⟨.between, ts⟩ (ascii "\x7b\"schema_version\":".toList) =
      some ⟨.between, .colon :: .string (ascii "schema_version".toList) :: .opening .curly :: ts⟩ :=
    fun _ => rfl
  have hsecond : ∀ (n : Nat) ts raw,
      Scanner.run ⟨.number raw (if n = 0 then .zero else .whole), ts⟩
        (ascii ",\"triggered\":".toList) =
      some ⟨.between, .colon :: .string (ascii "triggered".toList) :: .comma ::
        .number raw.reverse :: ts⟩ := by
    intro n ts raw
    by_cases hn : n = 0
    · rw [if_pos hn]; rfl
    · rw [if_neg hn]; rfl
  have hflag : ∀ b ts, Scanner.run ⟨.between, ts⟩ (ascii (flagText b)) =
      some ⟨.between, .bool b :: ts⟩ := by
    intro b ts
    cases b <;> rfl
  have hthird : ∀ ts, Scanner.run ⟨.between, ts⟩ (ascii ",\"saved_at\":\"".toList) =
      some ⟨.string [] .outside, .colon :: .string (ascii "saved_at".toList) :: .comma :: ts⟩ :=
    fun _ => rfl
  have hend : ∀ raw ts, Scanner.run ⟨.string raw .outside, ts⟩ (ascii "\"\x7d".toList) =
      some ⟨.between, .closing .curly :: .string raw.reverse :: ts⟩ :=
    fun _ _ => rfl
  have htime := Timestamp.isPlain_of_mem_display r.savedAt
  -- the pieces of the record one after the other, each from where the one before has led
  rw [scan, encode_eq, Scanner.start]
  rw [Scanner.run_append_of_eq_some (hfirst _),
    Scanner.run_append_of_eq_some (Scanner.run_digits _ _),
    Scanner.run_append_of_eq_some (hsecond _ _ _), Scanner.run_append_of_eq_some (hflag _ _),
    Scanner.run_append_of_eq_some (hthird _),
    Scanner.run_append_of_eq_some (Scanner.run_plain _ htime _), hend]
  simp [Scanner.finish?, tokens]

theorem ofBytes?_encode (r : Record) :
    Document.ofBytes? r.encode = some ⟨.curly,
      [(ascii "schema_version".toList, .number (ascii (Decimal.digits r.schema.toNat))),
        (ascii "triggered".toList, .bool r.triggered),
        (ascii "saved_at".toList, .string (ascii r.savedAt.display))]⟩ := by
  rw [Document.ofBytes?, scan_encode]
  rfl

theorem fields?_written (a b c : Item) :
    Document.fields? fieldNames ⟨.curly, [(ascii "schema_version".toList, a),
      (ascii "triggered".toList, b), (ascii "saved_at".toList, c)]⟩ = some [a, b, c] := by
  have h1 : textOf? (ascii "schema_version".toList) = some "schema_version".toList :=
    textOf?_ascii (List.all_eq_true.1 rfl)
  have h2 : textOf? (ascii "triggered".toList) = some "triggered".toList :=
    textOf?_ascii (List.all_eq_true.1 rfl)
  have h3 : textOf? (ascii "saved_at".toList) = some "saved_at".toList :=
    textOf?_ascii (List.all_eq_true.1 rfl)
  simp only [Document.fields?, List.mapM_cons, List.mapM_nil, h1, h2, h3]
  rfl

/-- **A written record reads back.** -/
theorem decode_encode (r : Record) : decode r.encode = some r := by
  have hschema : (Item.number (ascii (Decimal.digits r.schema.toNat))).nat? 4294967295 =
      some r.schema.toNat := nat?_digits (by have := r.schema.toNat_lt; omega)
  have htime : (Item.string (ascii r.savedAt.display)).text? = some r.savedAt.display :=
    textOf?_ascii (Timestamp.isPlain_of_mem_display r.savedAt)
  rw [decode, ofBytes?_encode]
  simp only [Option.bind_eq_bind, Option.bind_some, fields?_written, hschema, htime, Item.bool?,
    Timestamp.ofText?_display, UInt32.ofNat_toNat]

/-- **A record that was read keeps its fields when it is rewritten**, and rewriting it again gives
the same bytes, whatever the bytes were that it was read from. -/
theorem rewrite_of_decode {b : Bytes} {r : Record} (h : decode b = some r) :
    decode r.encode = decode b ∧
      ∀ r', decode r.encode = some r' →
        (r'.schema = r.schema ∧ r'.triggered = r.triggered ∧ r'.savedAt = r.savedAt) ∧
          r'.encode = r.encode := by
  refine ⟨(decode_encode r).trans h.symm, fun r' hr' => ?_⟩
  obtain rfl : r = r' := Option.some.inj ((decode_encode r).symm.trans hr')
  exact ⟨⟨rfl, rfl, rfl⟩, rfl⟩

/-- A leap second of the first hour of the year 10000, an hour ahead of UTC, in a record with an
escaped name and a field that is skipped. -/
theorem rewrite_of_decode_year_border :
    let b := ascii ("\x7b\"saved_at\":\"+10000-01-01t00:30:60.120000+01:00\",\"by\":[\x7b\x7d]," ++
      "\"trigg\\u0065red\":false,\"schema_version\":7\x7d").toList
    let own := ascii ("\x7b\"schema_version\":7,\"triggered\":false," ++
      "\"saved_at\":\"9999-12-31T23:30:60.120Z\"\x7d").toList
    (decode b).map encode = some own ∧ decode own = decode b := by
  intro b own
  have hb : (decode b).map encode = some own := by decide +kernel
  obtain ⟨r, hr, hown⟩ := Option.map_eq_some_iff.1 hb
  exact ⟨hb, hown ▸ (rewrite_of_decode hr).1⟩

end Record

end TriggerLatch
