import LintBridge.Text.Utf8

/-!
# Encoded texts are decoded again

The decoder reads back every text from its bytes. With ill-formed bytes around it, a
character is still read where its bytes stand.
-/

namespace LintBridge.Text

theorem toNat_byte {n : Nat} (small : n < 256) : (UInt8.ofNat n).toNat = n := by
  rw [UInt8.toNat_ofNat', Nat.mod_eq_of_lt small]

theorem isContinuation_byte (n : Nat) : isContinuation (UInt8.ofNat (n % 64 + 128)) = true := by
  have number := toNat_byte (n := n % 64 + 128) (by omega)
  simp only [isContinuation, Bool.and_eq_true, decide_eq_true_eq, UInt8.le_iff_toNat_le, number]
  constructor
  · exact Nat.le_add_left _ _
  · change n % 64 + 128 ≤ 191
    omega

theorem lowBits_byte (n : Nat) : lowBits (UInt8.ofNat (n % 64 + 128)) 64 = n % 64 := by
  rw [lowBits, toNat_byte (by omega)]
  omega

theorem secondByteOk_iff (first second : UInt8) :
    secondByteOk first second = true ↔
      (128 ≤ second.toNat ∧ second.toNat ≤ 191) ∧
        (first.toNat = 224 → 160 ≤ second.toNat) ∧ (first.toNat = 237 → second.toNat ≤ 159) ∧
        (first.toNat = 240 → 144 ≤ second.toNat) ∧ (first.toNat = 244 → second.toNat ≤ 143) := by
  have e0 : first = 0xE0 ↔ first.toNat = 224 := UInt8.toNat_inj.symm
  have ed : first = 0xED ↔ first.toNat = 237 := UInt8.toNat_inj.symm
  have f0 : first = 0xF0 ↔ first.toNat = 240 := UInt8.toNat_inj.symm
  have f4 : first = 0xF4 ↔ first.toNat = 244 := UInt8.toNat_inj.symm
  simp only [secondByteOk, Bool.and_eq_true, decide_eq_true_eq, UInt8.le_iff_toNat_le, e0, ed, f0,
    f4]
  change (128 ≤ _ ∧ _ ≤ 191) ∧ _ ↔ _
  split
  · simp; omega
  split
  · simp; omega
  split
  · simp; omega
  split
  · simp; omega
  · simp; omega

theorem nextPiece_one {n : Nat} (high : n ≤ 127) (rest : List UInt8) :
    nextPiece (UInt8.ofNat n) rest = .char (Char.ofNat n) 1 := by
  have first := toNat_byte (n := n) (by omega)
  have ascii : UInt8.ofNat n < 0x80 := by
    rw [UInt8.lt_iff_toNat_lt, first]
    exact Nat.lt_succ_of_le high
  rw [nextPiece.eq_def, if_pos ascii, first]

theorem nextPiece_two {n : Nat} (low : 127 < n) (high : n ≤ 2047) (rest : List UInt8) :
    nextPiece (UInt8.ofNat (n / 64 % 32 + 192)) (UInt8.ofNat (n % 64 + 128) :: rest) =
      .char (Char.ofNat n) 2 := by
  have first := toNat_byte (n := n / 64 % 32 + 192) (by omega)
  have number : lowBits (UInt8.ofNat (n / 64 % 32 + 192)) 32 * 64 + n % 64 = n := by
    rw [lowBits, first]
    omega
  simp only [nextPiece, UInt8.lt_iff_toNat_lt, first, isContinuation_byte, lowBits_byte, number,
    if_true]
  rw [if_neg, if_neg, if_pos]
  · change _ < 224; omega
  · change ¬ _ < 194; omega
  · change ¬ _ < 128; omega

theorem nextPiece_three {n : Nat} (low : 2047 < n) (high : n ≤ 65535)
    (proper : n < 0xD800 ∨ 0xDFFF < n) (rest : List UInt8) :
    nextPiece (UInt8.ofNat (n / 4096 % 16 + 224))
        (UInt8.ofNat (n / 64 % 64 + 128) :: UInt8.ofNat (n % 64 + 128) :: rest) =
      .char (Char.ofNat n) 3 := by
  have first := toNat_byte (n := n / 4096 % 16 + 224) (by omega)
  have second := toNat_byte (n := n / 64 % 64 + 128) (by omega)
  have ok : secondByteOk (UInt8.ofNat (n / 4096 % 16 + 224)) (UInt8.ofNat (n / 64 % 64 + 128)) =
      true := by
    rw [secondByteOk_iff, first, second]
    omega
  have number : (lowBits (UInt8.ofNat (n / 4096 % 16 + 224)) 16 * 64 + n / 64 % 64) * 64 + n % 64 =
      n := by
    rw [lowBits, first]
    omega
  simp only [nextPiece, UInt8.lt_iff_toNat_lt, first, ok, isContinuation_byte, lowBits_byte, number,
    Bool.not_true, Bool.false_eq_true, if_true, if_false]
  rw [if_neg, if_neg, if_neg, if_pos]
  · change _ < 240; omega
  · change ¬ _ < 224; omega
  · change ¬ _ < 194; omega
  · change ¬ _ < 128; omega

theorem nextPiece_four {n : Nat} (low : 65535 < n) (high : n < 0x110000) (rest : List UInt8) :
    nextPiece (UInt8.ofNat (n / 262144 % 8 + 240))
        (UInt8.ofNat (n / 4096 % 64 + 128) :: UInt8.ofNat (n / 64 % 64 + 128) ::
          UInt8.ofNat (n % 64 + 128) :: rest) =
      .char (Char.ofNat n) 4 := by
  have first := toNat_byte (n := n / 262144 % 8 + 240) (by omega)
  have second := toNat_byte (n := n / 4096 % 64 + 128) (by omega)
  have ok : secondByteOk (UInt8.ofNat (n / 262144 % 8 + 240))
      (UInt8.ofNat (n / 4096 % 64 + 128)) = true := by
    rw [secondByteOk_iff, first, second]
    omega
  have number : ((lowBits (UInt8.ofNat (n / 262144 % 8 + 240)) 8 * 64 + n / 4096 % 64) * 64 +
      n / 64 % 64) * 64 + n % 64 = n := by
    rw [lowBits, first]
    omega
  simp only [nextPiece, UInt8.lt_iff_toNat_lt, first, ok, isContinuation_byte, lowBits_byte, number,
    Bool.not_true, Bool.false_eq_true, if_true, if_false]
  rw [if_neg, if_neg, if_neg, if_neg, if_pos]
  · change _ < 245; omega
  · change ¬ _ < 240; omega
  · change ¬ _ < 224; omega
  · change ¬ _ < 194; omega
  · change ¬ _ < 128; omega

/-- The bytes of a character are read as that character, whatever follows them. -/
theorem nextPiece_encodeChar (c : Char) (rest : List UInt8) :
    ∃ first more, String.utf8EncodeChar c = first :: more ∧
      nextPiece first (more ++ rest) = .char c (more.length + 1) := by
  have valid : c.val.toNat < 0xD800 ∨ 0xDFFF < c.val.toNat ∧ c.val.toNat < 0x110000 := c.valid
  have same : Char.ofNat c.val.toNat = c := Char.ofNat_toNat c
  suffices read : ∃ first more, String.utf8EncodeChar c = first :: more ∧
      nextPiece first (more ++ rest) = .char (Char.ofNat c.val.toNat) (more.length + 1) by
    rwa [same] at read
  rw [String.utf8EncodeChar]
  generalize c.val.toNat = n at valid ⊢
  split
  · rename_i one
    exact ⟨_, _, rfl, nextPiece_one one rest⟩
  split
  · rename_i more two
    exact ⟨_, _, rfl, nextPiece_two (Nat.lt_of_not_le more) two rest⟩
  split
  · rename_i more three
    exact ⟨_, _, rfl, nextPiece_three (Nat.lt_of_not_le more) three (by omega) rest⟩
  · rename_i more
    exact ⟨_, _, rfl, nextPiece_four (Nat.lt_of_not_le more) (by omega) rest⟩

/-- Bytes that belong to the piece before are skipped. -/
theorem decodeFrom_skip (position : Nat) (skipped rest : List UInt8) :
    decodeFrom position skipped.length (skipped ++ rest) =
      decodeFrom (position + skipped.length) 0 rest := by
  induction skipped generalizing position with
  | nil => rfl
  | cons byte skipped ih =>
      rw [List.length_cons, List.cons_append, decodeFrom, ih]
      congr 1
      omega

theorem decodeFrom_encode (position : Nat) (text : List Char) :
    decodeFrom position 0 (encode text) = .ok text := by
  induction text generalizing position with
  | nil => rfl
  | cons c text ih =>
      rcases nextPiece_encodeChar c (encode text) with ⟨first, more, bytes, piece⟩
      have encoded : encode (c :: text) = first :: (more ++ encode text) := by
        rw [encode, List.flatMap_cons, bytes]
        rfl
      rw [encoded, decodeFrom, piece]
      dsimp only
      rw [Nat.add_sub_cancel, decodeFrom_skip, ih]

theorem decode_encode (text : List Char) : decode (encode text) = .ok text :=
  decodeFrom_encode 0 text

theorem encode_inj {left right : List Char} : encode left = encode right ↔ left = right := by
  constructor
  · intro same
    have read := congrArg decode same
    rw [decode_encode, decode_encode] at read
    exact Except.ok.inj read
  · exact congrArg encode

/-! ## Characters among ill-formed bytes -/

/-- The character that a piece is shown as. -/
def Piece.shown : Piece → Char
  | .char c _ => c
  | .fault _ _ => '\uFFFD'

/-- The number of bytes that a piece takes. -/
def Piece.width : Piece → Nat
  | .char _ width => width
  | .fault _ width => width

theorem decodeLossyFrom_zero (first : UInt8) (rest : List UInt8) :
    decodeLossyFrom 0 (first :: rest) = (nextPiece first rest).shown ::
      decodeLossyFrom ((nextPiece first rest).width - 1) rest := by
  rw [decodeLossyFrom]
  cases nextPiece first rest <;> rfl

theorem secondByteOk_of_not_isContinuation {byte : UInt8} (starts : isContinuation byte = false)
    (first : UInt8) : secondByteOk first byte = false := by
  rw [isContinuation] at starts
  rw [secondByteOk, starts, Bool.false_and]

/-- What a piece is shown as and how wide it is does not depend on what follows the bytes
that continue it. -/
theorem nextPiece_append {start : UInt8} (starts : isContinuation start = false) (first : UInt8)
    (left right : List UInt8) :
    (nextPiece first (left ++ start :: right)).shown = (nextPiece first left).shown ∧
      (nextPiece first (left ++ start :: right)).width = (nextPiece first left).width ∧
      (nextPiece first left).width ≤ left.length + 1 := by
  have second := secondByteOk_of_not_isContinuation starts first
  simp only [nextPiece]
  by_cases one : first < 0x80
  · simp [one, Piece.shown, Piece.width]
  by_cases stray : first < 0xC2
  · simp [one, stray, Piece.shown, Piece.width]
  by_cases two : first < 0xE0
  · rcases left with _ | ⟨b, left⟩
    · simp [one, stray, two, starts, Piece.shown, Piece.width]
    · cases ofB : isContinuation b <;>
        simp [one, stray, two, ofB, Piece.shown, Piece.width]
  by_cases three : first < 0xF0
  · rcases left with _ | ⟨b, left⟩
    · simp [one, stray, two, three, second, Piece.shown, Piece.width]
    cases ofB : secondByteOk first b
    · simp [one, stray, two, three, ofB, Piece.shown, Piece.width]
    rcases left with _ | ⟨c, left⟩
    · simp [one, stray, two, three, ofB, starts, Piece.shown, Piece.width]
    · cases ofC : isContinuation c <;>
        simp [one, stray, two, three, ofB, ofC, Piece.shown, Piece.width]
  by_cases four : first < 0xF5
  · rcases left with _ | ⟨b, left⟩
    · simp [one, stray, two, three, four, second, Piece.shown, Piece.width]
    cases ofB : secondByteOk first b
    · simp [one, stray, two, three, four, ofB, Piece.shown, Piece.width]
    rcases left with _ | ⟨c, left⟩
    · simp [one, stray, two, three, four, ofB, starts, Piece.shown, Piece.width]
    cases ofC : isContinuation c
    · simp [one, stray, two, three, four, ofB, ofC, Piece.shown, Piece.width]
    rcases left with _ | ⟨d, left⟩
    · simp [one, stray, two, three, four, ofB, ofC, starts, Piece.shown, Piece.width]
    · cases ofD : isContinuation d <;>
        simp [one, stray, two, three, four, ofB, ofC, ofD, Piece.shown, Piece.width]
  · simp [one, stray, two, three, four, Piece.shown, Piece.width]

theorem decodeLossyFrom_skip (skipped rest : List UInt8) :
    decodeLossyFrom skipped.length (skipped ++ rest) = decodeLossyFrom 0 rest := by
  induction skipped with
  | nil => rfl
  | cons byte skipped ih => rw [List.length_cons, List.cons_append, decodeLossyFrom, ih]

/-- A byte that continues no character begins a piece, wherever it stands. -/
theorem decodeLossyFrom_append {start : UInt8} (starts : isContinuation start = false)
    (right : List UInt8) (skip : Nat) (left : List UInt8) (short : skip ≤ left.length) :
    decodeLossyFrom skip (left ++ start :: right) =
      decodeLossyFrom skip left ++ decodeLossyFrom 0 (start :: right) := by
  induction left generalizing skip with
  | nil =>
      cases Nat.le_zero.mp short
      rfl
  | cons first left ih =>
      cases skip with
      | succ skip => exact ih skip (Nat.le_of_succ_le_succ short)
      | zero =>
          rcases nextPiece_append starts first left right with ⟨shown, width, fits⟩
          rw [List.cons_append, decodeLossyFrom_zero, decodeLossyFrom_zero first left, shown, width,
            ih _ (by omega), List.cons_append]

theorem isContinuation_of_nextPiece {first : UInt8} {rest : List UInt8} {c : Char} {width : Nat}
    (piece : nextPiece first rest = .char c width) : isContinuation first = false := by
  rw [Bool.eq_false_iff, isContinuation, Ne, Bool.and_eq_true, decide_eq_true_eq,
    decide_eq_true_eq]
  rintro ⟨low, high⟩
  have noAscii : ¬ first < 0x80 := UInt8.not_lt.mpr low
  have stray : first < 0xC2 := UInt8.lt_of_le_of_lt high (by decide)
  rw [nextPiece.eq_def, if_neg noAscii, if_pos stray] at piece
  cases piece

/-- A character is decoded wherever its bytes stand, whatever is around them. -/
theorem decodeLossy_append_encodeChar (left : List UInt8) (c : Char) (right : List UInt8) :
    decodeLossy (left ++ String.utf8EncodeChar c ++ right) =
      decodeLossy left ++ c :: decodeLossy right := by
  rcases nextPiece_encodeChar c right with ⟨start, more, bytes, piece⟩
  have starts := isContinuation_of_nextPiece piece
  have read : decodeLossyFrom 0 (start :: (more ++ right)) = c :: decodeLossy right := by
    rw [decodeLossyFrom_zero, piece]
    exact congrArg (c :: ·) (decodeLossyFrom_skip more right)
  rw [bytes, List.append_assoc, List.cons_append, decodeLossy,
    decodeLossyFrom_append starts _ _ _ (Nat.zero_le _), read]
  rfl

end LintBridge.Text
