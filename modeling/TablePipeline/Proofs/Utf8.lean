import Mathlib
import TablePipeline.Proofs.Outcome
import TablePipeline.Text.Encoding.Decode
import TablePipeline.Text.Encoding.Encode

/-!
UTF-8 in pieces. The bytes of a character start with one that tells how many follow, so a decoder
knows whether a piece breaks off inside a character and keeps back what it has of it. However the
bytes of a text are cut, what is read is the text.
-/
namespace TablePipeline.Text

@[simp] theorem utf8Encode_nil : utf8Encode [] = [] := rfl

@[simp] theorem utf8Encode_cons (c : Char) (cs : List Char) :
    utf8Encode (c :: cs) = Coding.utf8Bytes c.toNat ++ utf8Encode cs :=
  List.flatMap_cons

@[simp] theorem utf8Encode_append (cs ds : List Char) :
    utf8Encode (cs ++ ds) = utf8Encode cs ++ utf8Encode ds :=
  List.flatMap_append

namespace Coding

/-- The bytes at the head of others are those of a code, and it is clear where some of them are
missing. -/
structure Reads (first : UInt8) (rest : List UInt8) (n : ℕ) : Prop where
  whole : ∀ tail, utf8Head first (rest ++ tail) = .char (Char.ofNat n) (rest.length + 1)
  broken : ∀ k < rest.length, utf8Head first (rest.take k) = unexpectedEnd

variable {a b c d : UInt8} {n : ℕ}

theorem reads_one (ha : a.toNat < 0x80) (hn : a.toNat = n) : Reads a [] n where
  whole tail := by simp only [utf8Head, hn ▸ ha, if_true, hn, List.length_nil]
  broken k hk := absurd hk (Nat.not_lt_zero k)

theorem reads_two (hlow : 0xC2 ≤ a.toNat) (hhigh : a.toNat < 0xE0)
    (hb : within (secondRange a.toNat) b = true)
    (hn : a.toNat % 32 * 64 + b.toNat % 64 = n) : Reads a [b] n := by
  have hlead : ¬a.toNat < 0x80 ∧ ¬(a.toNat < 0xC2 ∨ 0xF4 < a.toNat) := by omega
  constructor
  · intro tail
    simp [utf8Head, hlead, hb, hhigh, hn]
  · intro k hk
    obtain rfl : k = 0 := by simpa using hk
    simp [utf8Head, hlead]

theorem reads_three (hlow : 0xE0 ≤ a.toNat) (hhigh : a.toNat < 0xF0)
    (hb : within (secondRange a.toNat) b = true) (hc : within (0x80, 0xBF) c = true)
    (hn : a.toNat % 16 * 4096 + b.toNat % 64 * 64 + c.toNat % 64 = n) : Reads a [b, c] n := by
  have hlead : ¬a.toNat < 0x80 ∧ ¬(a.toNat < 0xC2 ∨ 0xF4 < a.toNat) ∧ ¬a.toNat < 0xE0 := by omega
  constructor
  · intro tail
    simp [utf8Head, hlead, hb, hc, hhigh, hn]
  · intro k hk
    obtain rfl | rfl : k = 0 ∨ k = 1 := by simp only [List.length_cons, List.length_nil] at hk; omega
    all_goals simp [utf8Head, hlead, hb]

theorem reads_four (hlow : 0xF0 ≤ a.toNat) (hhigh : a.toNat ≤ 0xF4)
    (hb : within (secondRange a.toNat) b = true) (hc : within (0x80, 0xBF) c = true)
    (hd : within (0x80, 0xBF) d = true)
    (hn : a.toNat % 8 * 262144 + b.toNat % 64 * 4096 + c.toNat % 64 * 64 + d.toNat % 64 = n) :
    Reads a [b, c, d] n := by
  have hlead : ¬a.toNat < 0x80 ∧ ¬(a.toNat < 0xC2 ∨ 0xF4 < a.toNat) ∧ ¬a.toNat < 0xE0 ∧
      ¬a.toNat < 0xF0 := by omega
  constructor
  · intro tail
    simp [utf8Head, hlead, hb, hc, hd, hn]
  · intro k hk
    obtain rfl | rfl | rfl : k = 0 ∨ k = 1 ∨ k = 2 := by
      simp only [List.length_cons, List.length_nil] at hk
      omega
    all_goals simp [utf8Head, hlead, hb, hc]

theorem toNat_byte {n : ℕ} (h : n < 256) : (UInt8.ofNat n).toNat = n := by
  simp [Nat.mod_eq_of_lt h]

/-- A byte after the first one. -/
theorem within_next (n : ℕ) : within (0x80, 0xBF) (UInt8.ofNat (0x80 + n % 64)) = true := by
  have hbyte : (UInt8.ofNat (0x80 + n % 64)).toNat = 0x80 + n % 64 := toNat_byte (by omega)
  simp only [within, hbyte, Bool.and_eq_true, decide_eq_true_eq]
  omega

/-- The bytes of a code that is a character are read as that code. -/
theorem reads_utf8Bytes (h : n.isValidChar) :
    ∃ first rest, utf8Bytes n = first :: rest ∧ Reads first rest n := by
  have hvalid : n < 0xD800 ∨ (0xDFFF < n ∧ n < 0x110000) := h
  unfold utf8Bytes
  split_ifs with h1 h2 h3
  · have ha : (UInt8.ofNat n).toNat = n := toNat_byte (by omega)
    exact ⟨_, _, rfl, reads_one (by omega) ha⟩
  · have ha : (UInt8.ofNat (0xC0 + n / 64)).toNat = 0xC0 + n / 64 := toNat_byte (by omega)
    have hb : (UInt8.ofNat (0x80 + n % 64)).toNat = 0x80 + n % 64 := toNat_byte (by omega)
    refine ⟨_, _, rfl, reads_two (by omega) (by omega) ?_ (by omega)⟩
    simp only [within, secondRange, ha, hb, beq_iff_eq]
    split_ifs <;> simp <;> omega
  · have ha : (UInt8.ofNat (0xE0 + n / 4096)).toNat = 0xE0 + n / 4096 := toNat_byte (by omega)
    have hb : (UInt8.ofNat (0x80 + n / 64 % 64)).toNat = 0x80 + n / 64 % 64 := toNat_byte (by omega)
    have hc : (UInt8.ofNat (0x80 + n % 64)).toNat = 0x80 + n % 64 := toNat_byte (by omega)
    refine ⟨_, _, rfl, reads_three (by omega) (by omega) ?_ (within_next _) (by omega)⟩
    simp only [within, secondRange, ha, hb, beq_iff_eq]
    split_ifs <;> simp <;> omega
  · have ha : (UInt8.ofNat (0xF0 + n / 262144)).toNat = 0xF0 + n / 262144 := toNat_byte (by omega)
    have hb : (UInt8.ofNat (0x80 + n / 4096 % 64)).toNat = 0x80 + n / 4096 % 64 :=
      toNat_byte (by omega)
    have hc : (UInt8.ofNat (0x80 + n / 64 % 64)).toNat = 0x80 + n / 64 % 64 := toNat_byte (by omega)
    have hd : (UInt8.ofNat (0x80 + n % 64)).toNat = 0x80 + n % 64 := toNat_byte (by omega)
    refine ⟨_, _, rfl,
      reads_four (by omega) (by omega) ?_ (within_next _) (within_next _) (by omega)⟩
    simp only [within, secondRange, ha, hb, beq_iff_eq]
    split_ifs <;> simp <;> omega

theorem reads_char (c : Char) :
    ∃ first rest, utf8Bytes c.toNat = first :: rest ∧ Reads first rest c.toNat :=
  reads_utf8Bytes c.valid

/-- Some of the bytes of a character, but not all, or none. -/
def IsPart (part : List UInt8) : Prop :=
  part = [] ∨ ∃ (c : Char) (more : List UInt8), more ≠ [] ∧ part ++ more = utf8Bytes c.toNat

/-- Part of a character is kept back. -/
theorem decodeFrom_part (policy : CodingPolicy) (final : Bool) {part : List UInt8}
    (hpart : IsPart part) (hfinal : final = true → part = []) (start : ℕ) :
    decodeFrom .utf8 policy final start part = .ok ([], part) := by
  cases part with
  | nil => rw [decodeFrom]
  | cons head part =>
    have hnot : final = false := by
      by_contra h
      exact absurd (hfinal (by simpa using h)) (by simp)
    obtain ⟨c, more, hmore, hbytes⟩ := hpart.resolve_left (by simp)
    obtain ⟨first, rest, hread, hreads⟩ := reads_char c
    rw [hread, List.cons_append, List.cons.injEq] at hbytes
    obtain ⟨rfl, rfl⟩ := hbytes
    have hcut := hreads.broken part.length (by simp [List.length_pos_iff.2 hmore])
    rw [List.take_left' rfl] at hcut
    rw [decodeFrom, Coding.head, hcut]
    simp [unexpectedEnd, hnot]

/-- A text and part of a character behind it. By induction on the text. -/
theorem decodeFrom_utf8Encode (policy : CodingPolicy) (final : Bool) (cs : List Char)
    {part : List UInt8} (hpart : IsPart part) (hfinal : final = true → part = []) (start : ℕ) :
    decodeFrom .utf8 policy final start (utf8Encode cs ++ part) = .ok (cs, part) := by
  induction cs generalizing start with
  | nil => exact decodeFrom_part policy final hpart hfinal start
  | cons c cs ih =>
    obtain ⟨first, rest, hread, hreads⟩ := reads_char c
    have hbytes : utf8Encode (c :: cs) ++ part = first :: (rest ++ (utf8Encode cs ++ part)) := by
      rw [utf8Encode_cons, hread, List.cons_append, List.cons_append, List.append_assoc]
    have hdrop : (rest ++ (utf8Encode cs ++ part)).drop (rest.length + 1 - 1) =
        utf8Encode cs ++ part := by
      rw [Nat.add_sub_cancel, List.drop_left]
    rw [hbytes, decodeFrom, Coding.head, hreads.whole]
    simp only [hdrop, ih, Char.ofNat_toNat, ok_bind]

/-- The bytes of a text, cut somewhere: a text, part of a character, and what completes it with the
rest of the text. By induction on the text. -/
theorem utf8Encode_split {cs : List Char} {front back : List UInt8}
    (h : front ++ back = utf8Encode cs) :
    ∃ before after part, cs = before ++ after ∧ front = utf8Encode before ++ part ∧ IsPart part ∧
      part ++ back = utf8Encode after := by
  induction cs generalizing front with
  | nil =>
    obtain ⟨rfl, rfl⟩ := List.append_eq_nil_iff.1 h
    exact ⟨[], [], [], rfl, rfl, .inl rfl, rfl⟩
  | cons c cs ih =>
    rw [utf8Encode_cons] at h
    rcases List.append_eq_append_iff.1 h with ⟨more, hchar, hback⟩ | ⟨more, hfront, hrest⟩
    · by_cases hmore : more = []
      · subst hmore
        refine ⟨[c], cs, [], rfl, ?_, .inl rfl, by simpa using hback⟩
        simpa using hchar.symm
      · exact ⟨[], c :: cs, front, rfl, rfl, .inr ⟨c, more, hmore, hchar.symm⟩, h⟩
    · obtain ⟨before, after, part, rfl, rfl, hpart, hback⟩ := ih hrest.symm
      refine ⟨c :: before, after, part, rfl, ?_, hpart, hback⟩
      rw [hfront, utf8Encode_cons, List.append_assoc]

end Coding

namespace Encoding

/-- Pieces of the bytes of a text, with the bytes before them that have been kept back. By induction
on the pieces: what is kept back and what is to come are the bytes of the rest of the text. -/
theorem decodeFrom_utf8 (policy : CodingPolicy) {cs : List Char} {coding? : Option Coding}
    (hcoding : coding? = none ∨ coding? = some .utf8) {kept : List UInt8}
    {pieces : List (List UInt8)} (h : kept ++ pieces.flatten = utf8Encode cs) :
    decodeFrom ⟨.utf8, false⟩ policy false coding? kept pieces = (cs, none) := by
  have hread : ∀ final piece, readPiece ⟨.utf8, false⟩ policy coding? final piece =
      readIn .utf8 policy final 0 piece := by
    rcases hcoding with rfl | rfl <;> exact fun _ _ => rfl
  induction pieces generalizing cs coding? kept with
  | nil =>
    have hall := Coding.decodeFrom_utf8Encode policy true cs (.inl rfl) (fun _ => rfl) 0
    rw [← h, List.flatten_nil, List.append_nil, List.append_nil] at hall
    simp [decodeFrom, hread, readIn, hall, bind, Except.bind]
  | cons piece pieces ih =>
    rw [List.flatten_cons, ← List.append_assoc] at h
    obtain ⟨before, after, part, rfl, hfront, hpart, hback⟩ := Coding.utf8Encode_split h
    have hpiece := Coding.decodeFrom_utf8Encode policy false before hpart (by simp) 0
    rw [← hfront] at hpiece
    have hrest := @ih after (some .utf8) (.inr rfl) part hback fun _ _ => rfl
    simp [decodeFrom, hread, readIn, hpiece, hrest, bind, Except.bind]

/-- However the bytes of a text are cut into pieces, the text is what is read. -/
theorem decode_utf8 (policy : CodingPolicy) {cs : List Char} {pieces : List (List UInt8)}
    (h : pieces.flatten = utf8Encode cs) :
    decode ⟨.utf8, false⟩ policy false pieces = (cs, none) :=
  decodeFrom_utf8 policy (.inl rfl) h

end Encoding

/-- Lone surrogates are kept in a plane of their own. -/
theorem surrogate?_eq_none {c : Char} (h : c.toNat < surrogatePlane) : surrogate? c = none := by
  have hcode : c.toNat - surrogatePlane = 0 := by omega
  rw [surrogate?, hcode]
  rfl

theorem charBytes?_utf8 (c : Char) : Coding.charBytes? .utf8 c =
    if (surrogate? c).isSome then none else some (Coding.utf8Bytes c.toNat) := rfl

/-- A text without lone surrogates has bytes. -/
theorem encode_utf8 (policy : CodingPolicy) {cs : List Char} (h : ∀ c ∈ cs, surrogate? c = none) :
    Coding.encode .utf8 policy cs = .ok (utf8Encode cs) := by
  have hbytes : cs.mapM (Coding.charBytes? .utf8) =
      some (cs.map fun c => Coding.utf8Bytes c.toNat) := by
    induction cs with
    | nil => rfl
    | cons c cs ih =>
      rw [List.mapM_cons, charBytes?_utf8, h c List.mem_cons_self,
        ih fun d hd => h d (List.mem_cons_of_mem c hd)]
      rfl
  simp only [Coding.encode, Coding.allBytes?, hbytes, Option.map_some, utf8Encode, List.flatMap]

/-- What could be written character by character has no lone surrogates. -/
theorem surrogate?_of_encodeFrom {start : ℕ} {cs : List Char} {bytes : List UInt8}
    (h : Coding.encodeFrom .utf8 .strict start cs = .ok bytes) :
    ∀ c ∈ cs, surrogate? c = none := by
  induction cs generalizing start bytes with
  | nil => simp
  | cons c cs ih =>
    rw [Coding.encodeFrom, charBytes?_utf8] at h
    cases hc : surrogate? c with
    | some code =>
      simp only [hc, Option.isSome_some, if_true] at h
      cases h
    | none =>
      simp only [hc, Option.isSome_none, Bool.false_eq_true, if_false, ok_bind] at h
      obtain ⟨more, hmore, -⟩ := bind_eq_ok.1 h
      simpa [hc] using ih hmore

theorem mapM_charBytes?_eq_none {c : Char} {cs : List Char} (hc : c ∈ cs)
    (hlone : surrogate? c ≠ none) : cs.mapM (Coding.charBytes? .utf8) = none := by
  induction cs with
  | nil => simp at hc
  | cons d cs ih =>
    rw [List.mapM_cons, charBytes?_utf8]
    rcases List.mem_cons.1 hc with rfl | hc
    · rw [if_pos (Option.isSome_iff_ne_none.2 hlone)]
      rfl
    · rw [ih hc]
      split_ifs <;> rfl

/-- Only lone surrogates keep a text from having bytes. -/
theorem encode_utf8_strict_iff {cs : List Char} :
    (∃ bytes, Coding.encode .utf8 .strict cs = .ok bytes) ↔ ∀ c ∈ cs, surrogate? c = none := by
  refine ⟨fun ⟨bytes, h⟩ => ?_, fun h => ⟨_, encode_utf8 .strict h⟩⟩
  by_contra hnot
  push Not at hnot
  obtain ⟨c, hc, hlone⟩ := hnot
  have hfrom : Coding.encode .utf8 .strict cs = Coding.encodeFrom .utf8 .strict 0 cs := by
    simp only [Coding.encode, Coding.allBytes?, mapM_charBytes?_eq_none hc hlone, Option.map_none]
  exact hlone (surrogate?_of_encodeFrom (hfrom.symm.trans h) c hc)

end TablePipeline.Text
