import CoffeeHost.Proofs.Results
import CoffeeHost.Storage.Access
import Mathlib.Order.Nat
import Mathlib.Tactic.SplitIfs
/-!
# Texts of files

A file is written in UTF-8 and read in it. What was written is read again as it was, but for its
line breaks: the characters of a text come back one by one, each from as many bytes as it was
written with. Nothing else is read: bytes that give a text are the bytes of that text, as there is
one way only to write a character.

## Main results

* `Text.decodeUtf8_encode` — the bytes of a text are read as its characters.
* `Text.decodeUtf8_eq_ok_iff` — only the bytes of a text are read.
* `Storage.textOfBytes_encode` — they are read as the text with its line breaks as line feeds.
* `Storage.textOfBytes_eq_ok_iff` — what files can be read.
-/

namespace CoffeeHost

namespace Text

/-! ### One byte -/

/-- The bytes that announce others are above `0xC1`. -/
theorem Utf8Lead.le_of_ofByte? {n : Nat} {l : Utf8Lead} (h : ofByte? n = some l) : 0xC2 ≤ n := by
  by_contra hbelow
  rw [ofByte?, if_neg (by omega), if_neg (by omega), if_neg (by omega), if_neg (by omega),
    if_neg (by omega), if_neg (by omega), if_neg (by omega)] at h
  cases h

theorem decodeUtf8From_ascii {n : Nat} (h : n < 0x80) (position : Nat) (rest : List UInt8) :
    decodeUtf8From none position (UInt8.ofNat n :: rest) =
      (decodeUtf8From none (position + 1) rest).map (Char.ofNat n :: ·) := by
  have hbyte : (UInt8.ofNat n).toNat = n := UInt8.toNat_ofNat_of_lt' (h.trans (by decide))
  rw [decodeUtf8From, hbyte, if_pos h]

theorem decodeUtf8From_lead {n : Nat} (hn : n < 256) {l : Utf8Lead}
    (h : Utf8Lead.ofByte? n = some l) (position : Nat) (rest : List UInt8) :
    decodeUtf8From none position (UInt8.ofNat n :: rest) =
      decodeUtf8From (some ⟨l.share, l.following, l.least, l.greatest, n, 1⟩) (position + 1)
        rest := by
  have hbyte : (UInt8.ofNat n).toNat = n := UInt8.toNat_ofNat_of_lt' hn
  have hlead := Utf8Lead.le_of_ofByte? h
  rw [decodeUtf8From, hbyte, if_neg (by omega)]
  simp only [h]

section Pending

variable {p : Utf8Pending} {n : Nat} (hn : n < 64) (hleast : p.least ≤ n + 128)
  (hgreatest : n + 128 ≤ p.greatest)

include hn hleast hgreatest

/-- A byte that a character goes on with, before its last one. -/
theorem decodeUtf8From_more (h : 1 < p.following) (position : Nat) (rest : List UInt8) :
    decodeUtf8From (some p) position (UInt8.ofNat (n + 128) :: rest) =
      decodeUtf8From (some ⟨64 * p.share + n, p.following - 1, 0x80, 0xBF, p.firstByte,
        p.count + 1⟩) (position + 1) rest := by
  have hbyte : (UInt8.ofNat (n + 128)).toNat = n + 128 :=
    UInt8.toNat_ofNat_of_lt' (Nat.add_lt_add_right hn 128 |>.trans (by decide))
  rw [decodeUtf8From, hbyte, if_pos ⟨hleast, hgreatest⟩, if_neg (by omega),
    Nat.add_sub_cancel]

/-- The last byte of a character. -/
theorem decodeUtf8From_last (h : p.following ≤ 1) (position : Nat) (rest : List UInt8) :
    decodeUtf8From (some p) position (UInt8.ofNat (n + 128) :: rest) =
      (decodeUtf8From none (position + 1) rest).map (Char.ofNat (64 * p.share + n) :: ·) := by
  have hbyte : (UInt8.ofNat (n + 128)).toNat = n + 128 :=
    UInt8.toNat_ofNat_of_lt' (Nat.add_lt_add_right hn 128 |>.trans (by decide))
  rw [decodeUtf8From, hbyte, if_pos ⟨hleast, hgreatest⟩, if_pos h,
    Nat.add_sub_cancel]

end Pending

/-! ### One character -/

/-- The first byte of a character of two bytes. -/
theorem ofByte?_two {n : Nat} (hleast : 0x80 ≤ n) (hgreatest : n ≤ 0x7FF) :
    Utf8Lead.ofByte? (n / 64 % 32 + 192) = some ⟨1, n / 64, 0x80, 0xBF⟩ := by
  have hshare : n / 64 % 32 + 192 - 0xC0 = n / 64 := by omega
  rw [Utf8Lead.ofByte?, if_pos (by omega), hshare]

/-- The first byte of a character of three bytes admits the second one. -/
theorem ofByte?_three {n : Nat} (hleast : 0x800 ≤ n) (hgreatest : n ≤ 0xFFFF)
    (hvalid : n < 0xD800 ∨ 0xDFFF < n) : ∃ least greatest,
      Utf8Lead.ofByte? (n / 4096 % 16 + 224) = some ⟨2, n / 4096, least, greatest⟩ ∧
      least ≤ n / 64 % 64 + 128 ∧ n / 64 % 64 + 128 ≤ greatest := by
  have hshare : n / 4096 % 16 + 224 - 0xE0 = n / 4096 := by omega
  rw [Utf8Lead.ofByte?, if_neg (by omega)]
  split_ifs with h h h
  · exact ⟨0xA0, 0xBF, by rw [show n / 4096 = 0 by omega], by omega, by omega⟩
  · exact ⟨0x80, 0x9F, by rw [show n / 4096 = 0xD by omega], by omega, by omega⟩
  · exact ⟨0x80, 0xBF, by rw [hshare], by omega, by omega⟩
  all_goals omega

/-- The first byte of a character of four bytes admits the second one. -/
theorem ofByte?_four {n : Nat} (hleast : 0x10000 ≤ n) (hgreatest : n ≤ 0x10FFFF) :
    ∃ least greatest,
      Utf8Lead.ofByte? (n / 262144 % 8 + 240) = some ⟨3, n / 262144, least, greatest⟩ ∧
      least ≤ n / 4096 % 64 + 128 ∧ n / 4096 % 64 + 128 ≤ greatest := by
  have hshare : n / 262144 % 8 + 240 - 0xF0 = n / 262144 := by omega
  rw [Utf8Lead.ofByte?, if_neg (by omega), if_neg (by omega), if_neg (by omega),
    if_neg (by omega)]
  split_ifs with h h h
  · exact ⟨0x90, 0xBF, by rw [show n / 262144 = 0 by omega], by omega, by omega⟩
  · exact ⟨0x80, 0xBF, by rw [hshare], by omega, by omega⟩
  · exact ⟨0x80, 0x8F, by rw [show n / 262144 = 4 by omega], by omega, by omega⟩
  all_goals omega

/-- A character is read from the bytes that it is written with. -/
theorem decodeUtf8From_encode (c : Char) (position : Nat) (rest : List UInt8) :
    decodeUtf8From none position (String.utf8EncodeChar c ++ rest) =
      (decodeUtf8From none (position + (String.utf8EncodeChar c).length) rest).map (c :: ·) := by
  have hvalid : c.toNat < 0xD800 ∨ 0xDFFF < c.toNat ∧ c.toNat < 0x110000 := c.valid
  have hchar := c.ofNat_toNat
  have hval : c.val.toNat = c.toNat := rfl
  generalize c.toNat = n at hvalid hchar hval
  subst hchar
  rw [String.utf8EncodeChar, hval]
  split_ifs with hone htwo hthree
  · exact decodeUtf8From_ascii (by omega) position rest
  · have hlead := ofByte?_two (by omega) htwo
    rw [List.cons_append, decodeUtf8From_lead (by omega) hlead, List.cons_append,
      decodeUtf8From_last (by omega) (by simp) (by simp; omega) (by simp)]
    have hpoint : 64 * (n / 64) + n % 64 = n := by omega
    simp only [hpoint]
    rfl
  · obtain ⟨least, greatest, hlead, hleast, hgreatest⟩ :=
      ofByte?_three (by omega) hthree (by omega)
    rw [List.cons_append, decodeUtf8From_lead (by omega) hlead, List.cons_append,
      decodeUtf8From_more (by omega) hleast hgreatest (by simp), List.cons_append,
      decodeUtf8From_last (by omega) (by simp) (by simp; omega) (by simp)]
    have hpoint : 64 * (64 * (n / 4096) + n / 64 % 64) + n % 64 = n := by omega
    simp only [hpoint]
    rfl
  · obtain ⟨least, greatest, hlead, hleast, hgreatest⟩ :=
      ofByte?_four (n := n) (by omega) (by omega)
    rw [List.cons_append, decodeUtf8From_lead (by omega) hlead, List.cons_append,
      decodeUtf8From_more (by omega) hleast hgreatest (by simp), List.cons_append,
      decodeUtf8From_more (by omega) (by simp) (by simp; omega) (by simp), List.cons_append,
      decodeUtf8From_last (by omega) (by simp) (by simp; omega) (by simp)]
    have hpoint : 64 * (64 * (64 * (n / 262144) + n / 4096 % 64) + n / 64 % 64) + n % 64 = n := by
      omega
    simp only [hpoint]
    rfl

/-! ### Texts -/

theorem decodeUtf8From_flatMap (text : List Char) (position : Nat) :
    decodeUtf8From none position (text.flatMap String.utf8EncodeChar) = .ok text := by
  induction text generalizing position with
  | nil => rfl
  | cons c rest ih => rw [List.flatMap_cons, decodeUtf8From_encode, ih]; rfl

/-- The bytes of a text are those of its characters. -/
theorem toUTF8_eq (text : String) :
    text.toUTF8.data.toList = text.toList.flatMap String.utf8EncodeChar := by
  rw [String.toUTF8, ← String.utf8Encode_toList, List.utf8Encode, List.data_toByteArray]

/-- The bytes of a text are read as its characters. -/
theorem decodeUtf8_encode (text : String) :
    decodeUtf8 text.toUTF8.data.toList = .ok text.toList := by
  rw [toUTF8_eq]
  exact decodeUtf8From_flatMap text.toList 0

/-! ### Bytes that give a text -/

/-- What a first byte announces. The range of the second byte keeps shorter characters, surrogates
and everything beyond the last character out. -/
inductive Utf8Lead.Announces (b : Nat) : Utf8Lead → Prop
  | two (hleast : 0xC2 ≤ b) (hgreatest : b ≤ 0xDF) : Announces b ⟨1, b - 0xC0, 0x80, 0xBF⟩
  | three {least greatest : Nat} (hleast : 0xE0 ≤ b) (hgreatest : b ≤ 0xEF)
      (h : ∀ n, least ≤ n → n ≤ greatest → 0x80 ≤ n ∧ n ≤ 0xBF ∧
        0x20 ≤ 64 * (b - 0xE0) + (n - 0x80) ∧
        (64 * (b - 0xE0) + (n - 0x80) < 0x360 ∨ 0x37F < 64 * (b - 0xE0) + (n - 0x80))) :
      Announces b ⟨2, b - 0xE0, least, greatest⟩
  | four {least greatest : Nat} (hleast : 0xF0 ≤ b) (hgreatest : b ≤ 0xF4)
      (h : ∀ n, least ≤ n → n ≤ greatest → 0x80 ≤ n ∧ n ≤ 0xBF ∧
        0x10 ≤ 64 * (b - 0xF0) + (n - 0x80) ∧ 64 * (b - 0xF0) + (n - 0x80) < 0x110) :
      Announces b ⟨3, b - 0xF0, least, greatest⟩

theorem Utf8Lead.announces {b : Nat} {l : Utf8Lead} (h : ofByte? b = some l) : Announces b l := by
  rw [ofByte?] at h
  split_ifs at h with htwo he0 hed hthree hf0 hfour hf4
  · cases h
    exact .two htwo.1 htwo.2
  · cases h
    subst he0
    exact .three (by omega) (by omega) (by omega)
  · cases h
    subst hed
    exact .three (by omega) (by omega) (by omega)
  · cases h
    exact .three (by omega) (by omega) (by omega)
  · cases h
    subst hf0
    exact .four (by omega) (by omega) (by omega)
  · cases h
    exact .four (by omega) (by omega) (by omega)
  · cases h
    subst hf4
    exact .four (by omega) (by omega) (by omega)

section Reading

variable {p : Utf8Pending} {position : Nat} {bytes : List UInt8} {text : List Char}

/-- The last byte of a character that has been read. -/
theorem decodeUtf8From_eq_ok_last (hfollowing : p.following ≤ 1)
    (h : decodeUtf8From (some p) position bytes = .ok text) :
    ∃ byte rest more, bytes = byte :: rest ∧ p.least ≤ byte.toNat ∧ byte.toNat ≤ p.greatest ∧
      text = Char.ofNat (64 * p.share + (byte.toNat - 0x80)) :: more ∧
      decodeUtf8From none (position + 1) rest = .ok more := by
  cases bytes with
  | nil => cases h
  | cons byte rest =>
    rw [decodeUtf8From] at h
    split_ifs at h with hrange
    obtain ⟨more, hmore, rfl⟩ := map_eq_ok_iff.mp h
    exact ⟨byte, rest, more, rfl, hrange.1, hrange.2, rfl, hmore⟩

/-- A byte before the last one. -/
theorem decodeUtf8From_eq_ok_more (hfollowing : 1 < p.following)
    (h : decodeUtf8From (some p) position bytes = .ok text) :
    ∃ byte rest, bytes = byte :: rest ∧ p.least ≤ byte.toNat ∧ byte.toNat ≤ p.greatest ∧
      decodeUtf8From (some ⟨64 * p.share + (byte.toNat - 0x80), p.following - 1, 0x80, 0xBF,
        p.firstByte, p.count + 1⟩) (position + 1) rest = .ok text := by
  cases bytes with
  | nil => cases h
  | cons byte rest =>
    rw [decodeUtf8From] at h
    split_ifs at h with hrange hlast
    · omega
    · exact ⟨byte, rest, rfl, hrange.1, hrange.2, h⟩

end Reading

theorem utf8EncodeChar_ofNat {n : Nat} (h : n < 0xD800 ∨ 0xDFFF < n ∧ n < 0x110000) :
    String.utf8EncodeChar (Char.ofNat n) =
      if n ≤ 0x7F then [UInt8.ofNat n]
      else if n ≤ 0x7FF then [UInt8.ofNat (n / 64 % 32 + 192), UInt8.ofNat (n % 64 + 128)]
      else if n ≤ 0xFFFF then
        [UInt8.ofNat (n / 4096 % 16 + 224), UInt8.ofNat (n / 64 % 64 + 128),
          UInt8.ofNat (n % 64 + 128)]
      else
        [UInt8.ofNat (n / 262144 % 8 + 240), UInt8.ofNat (n / 4096 % 64 + 128),
          UInt8.ofNat (n / 64 % 64 + 128), UInt8.ofNat (n % 64 + 128)] := by
  have hvalue : (Char.ofNat n).val.toNat = n := by
    rw [Char.ofNat, dif_pos h]
    rfl
  rw [String.utf8EncodeChar, hvalue]

/-- A part of a code point that comes from a byte gives this byte back. -/
theorem ofNat_eq_of_toNat (byte : UInt8) {n : Nat} (h : n = byte.toNat) : UInt8.ofNat n = byte := by
  rw [h, UInt8.ofNat_toNat]

/-- What is read begins with a character whose bytes stand in front. -/
theorem decodeUtf8From_eq_ok_first {position : Nat} {bytes : List UInt8} {text : List Char}
    (h : decodeUtf8From none position bytes = .ok text) :
    bytes = [] ∧ text = [] ∨ ∃ c rest more position', bytes = String.utf8EncodeChar c ++ rest ∧
      text = c :: more ∧ decodeUtf8From none position' rest = .ok more := by
  cases bytes with
  | nil =>
    cases h
    exact .inl ⟨rfl, rfl⟩
  | cons first rest =>
    refine .inr ?_
    rw [decodeUtf8From] at h
    split_ifs at h with hone
    · obtain ⟨more, hmore, rfl⟩ := map_eq_ok_iff.mp h
      refine ⟨_, rest, more, position + 1, ?_, rfl, hmore⟩
      rw [utf8EncodeChar_ofNat (by omega), if_pos (by omega), UInt8.ofNat_toNat]
      rfl
    · split at h
      · cases h
      · next l hlead =>
        obtain ⟨hleast, hgreatest⟩ | ⟨hleast, hgreatest, hsecond⟩ | ⟨hleast, hgreatest, hsecond⟩ :=
          Utf8Lead.announces hlead
        · obtain ⟨second, rest, more, rfl, hlow, hhigh, rfl, hmore⟩ :=
            decodeUtf8From_eq_ok_last (by simp) h
          refine ⟨_, rest, more, _, ?_, rfl, hmore⟩
          dsimp only at hlow hhigh ⊢
          rw [utf8EncodeChar_ofNat (by omega), if_neg (by omega), if_pos (by omega),
            ofNat_eq_of_toNat first (by omega), ofNat_eq_of_toNat second (by omega)]
          rfl
        · obtain ⟨second, rest, rfl, hlow, hhigh, h⟩ := decodeUtf8From_eq_ok_more (by simp) h
          obtain ⟨third, rest, more, rfl, hlow', hhigh', rfl, hmore⟩ :=
            decodeUtf8From_eq_ok_last (by simp) h
          have hsecond := hsecond second.toNat hlow hhigh
          refine ⟨_, rest, more, _, ?_, rfl, hmore⟩
          dsimp only at hlow' hhigh' ⊢
          rw [utf8EncodeChar_ofNat (by omega), if_neg (by omega), if_neg (by omega),
            if_pos (by omega), ofNat_eq_of_toNat first (by omega),
            ofNat_eq_of_toNat second (by omega),
            ofNat_eq_of_toNat third (by omega)]
          rfl
        · obtain ⟨second, rest, rfl, hlow, hhigh, h⟩ := decodeUtf8From_eq_ok_more (by simp) h
          obtain ⟨third, rest, rfl, hlow', hhigh', h⟩ := decodeUtf8From_eq_ok_more (by simp) h
          obtain ⟨fourth, rest, more, rfl, hlow'', hhigh'', rfl, hmore⟩ :=
            decodeUtf8From_eq_ok_last (by simp) h
          have hsecond := hsecond second.toNat hlow hhigh
          refine ⟨_, rest, more, _, ?_, rfl, hmore⟩
          dsimp only at hlow' hhigh' hlow'' hhigh'' ⊢
          rw [utf8EncodeChar_ofNat (by omega), if_neg (by omega), if_neg (by omega),
            if_neg (by omega), ofNat_eq_of_toNat first (by omega),
            ofNat_eq_of_toNat second (by omega),
            ofNat_eq_of_toNat third (by omega),
            ofNat_eq_of_toNat fourth (by omega)]
          rfl

theorem decodeUtf8From_eq_ok {text : List Char} {position : Nat} {bytes : List UInt8}
    (h : decodeUtf8From none position bytes = .ok text) :
    bytes = text.flatMap String.utf8EncodeChar := by
  induction text generalizing position bytes with
  | nil =>
    rcases decodeUtf8From_eq_ok_first h with ⟨rfl, -⟩ | ⟨c, rest, more, position', -, htext, -⟩
    · rfl
    · cases htext
  | cons c text ih =>
    rcases decodeUtf8From_eq_ok_first h with
      ⟨-, htext⟩ | ⟨c, rest, more, position', rfl, htext, hmore⟩
    · cases htext
    · cases htext
      rw [List.flatMap_cons, ih hmore]

/-- Only the bytes of a text are read. -/
theorem decodeUtf8_eq_ok_iff {bytes : List UInt8} {text : List Char} :
    decodeUtf8 bytes = .ok text ↔ bytes = text.flatMap String.utf8EncodeChar := by
  refine ⟨decodeUtf8From_eq_ok, ?_⟩
  rintro rfl
  exact decodeUtf8From_flatMap text 0

end Text

/-- The bytes of a text are read as that text, with every line break as a line feed. -/
theorem Storage.textOfBytes_encode (text : String) : textOfBytes text.toUTF8.data.toList =
    .ok (String.ofList (Text.normalizeBreaks text.toList)) := by
  rw [textOfBytes, Text.decodeUtf8_encode]
  rfl

/-- Only files in UTF-8 are read as texts. -/
theorem Storage.textOfBytes_eq_ok_iff {bytes : List UInt8} {text : String} :
    textOfBytes bytes = .ok text ↔
      ∃ written : String, bytes = written.toUTF8.data.toList ∧
        text = String.ofList (Text.normalizeBreaks written.toList) := by
  rw [textOfBytes, bind_eq_ok_iff]
  constructor
  · rintro ⟨chars, hchars, htext⟩
    refine ⟨String.ofList chars, ?_, (Except.ok.inj htext).symm.trans (by simp)⟩
    rw [Text.toUTF8_eq, String.toList_ofList, Text.decodeUtf8_eq_ok_iff.mp hchars]
  · rintro ⟨written, rfl, rfl⟩
    exact ⟨written.toList, Text.decodeUtf8_encode written, rfl⟩

end CoffeeHost
