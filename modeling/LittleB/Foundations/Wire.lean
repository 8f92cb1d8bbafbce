import LittleB.Foundations.Framing

/-!
The tagged binary format of protocol buffers: a message is a sequence of fields,
each a number with a payload, and its value is folded from them.

* `varint`, `readGroups`: numbers in groups of seven bits, `readGroups_varint`, with
  their lengths, `length_varint_le_iff`; `readVarint`, `readLength`: numbers of 64 bits
  and lengths, in up to ten groups; `readPacked`: numbers one behind the other;
* `Payload`, `Field`, `Field.encode`, `readField`: one field on the wire and its
  reader, `Field.WellFormed` what is read back, `size` the number of octets of fields;
* `Stable` readers compose, which makes `readField` a framer, `fieldFramer`, with
  `fieldFramer_encodes` its correctness;
* `parseFields`: the fields of a string of octets and whether they exhaust it,
  `parseFields_flatMap`;
* `ofInt32`, `toInt32`, `toString?`: the scalar types, with their round trips;
* `foldFields`: a message folded from fields one after the other, stopping at the
  first one that does not decode, `foldFields_append`, and parsed from octets,
  `parseMessage`.
-/

namespace Wire

open Framer

/-! ### Numbers in groups of seven bits -/

/-- The groups of a number, the fuel bounding how many. -/
def varintAux : ℕ → ℕ → Bytes
  | 0, n => [UInt8.ofNat n]
  | fuel + 1, n =>
      if n < 128 then [UInt8.ofNat n]
      else UInt8.ofNat (n % 128 + 128) :: varintAux fuel (n / 128)

/-- A number in groups of seven bits, the least significant first, every group but
the last one marked. -/
def varint (n : ℕ) : Bytes := varintAux n n

/-- Reads the groups of a number and leaves what is behind them. -/
def readGroups : Bytes → Option (ℕ × Bytes)
  | [] => none
  | b :: bs =>
      if b.toNat < 128 then some (b.toNat, bs)
      else (readGroups bs).map fun p => (b.toNat - 128 + 128 * p.1, p.2)

lemma readGroups_varintAux {fuel n : ℕ} (h : n ≤ fuel) (r : Bytes) :
    readGroups (varintAux fuel n ++ r) = some (n, r) := by
  induction fuel generalizing n with
  | zero =>
      obtain rfl : n = 0 := by omega
      rfl
  | succ fuel ih =>
      rw [varintAux]
      by_cases hlast : n < 128
      · have hb : (UInt8.ofNat n).toNat = n := by
          rw [UInt8.toNat_ofNat']
          exact Nat.mod_eq_of_lt (by omega)
        rw [if_pos hlast, List.singleton_append, readGroups, hb, if_pos hlast]
      · have hb : (UInt8.ofNat (n % 128 + 128)).toNat = n % 128 + 128 := by
          rw [UInt8.toNat_ofNat']
          exact Nat.mod_eq_of_lt (by omega)
        rw [if_neg hlast, List.cons_append, readGroups, hb, if_neg (by omega),
          ih (by omega), Option.map_some]
        have hsum : n % 128 + 128 - 128 + 128 * (n / 128) = n := by omega
        rw [hsum]

/-- Every number is read back. -/
@[simp] lemma readGroups_varint (n : ℕ) (r : Bytes) : readGroups (varint n ++ r) = some (n, r) :=
  readGroups_varintAux le_rfl r

/-- A number once complete stays the same when more arrives. -/
lemma readGroups_append {q r : Bytes} {n : ℕ} (s : Bytes) (h : readGroups q = some (n, r)) :
    readGroups (q ++ s) = some (n, r ++ s) := by
  induction q generalizing n with
  | nil => cases h
  | cons b bs ih =>
      rw [readGroups] at h
      rw [List.cons_append, readGroups]
      split_ifs at h ⊢ with hlast
      · obtain ⟨rfl, rfl⟩ := Prod.mk.inj (Option.some.inj h)
        rfl
      · obtain ⟨p, hp, hpn⟩ := Option.map_eq_some_iff.mp h
        obtain ⟨rfl, rfl⟩ := Prod.mk.inj hpn
        rw [ih hp, Option.map_some]

lemma length_of_readGroups {q r : Bytes} {n : ℕ} (h : readGroups q = some (n, r)) :
    r.length < q.length := by
  induction q generalizing n with
  | nil => cases h
  | cons b bs ih =>
      rw [readGroups] at h
      split_ifs at h with hlast
      · obtain ⟨rfl, rfl⟩ := Prod.mk.inj (Option.some.inj h)
        simp
      · obtain ⟨p, hp, hpn⟩ := Option.map_eq_some_iff.mp h
        obtain ⟨rfl, rfl⟩ := Prod.mk.inj hpn
        have := ih hp
        rw [List.length_cons]
        omega

/-- Exactly the numbers below `128 ^ k` fit into `k` groups. -/
lemma length_varintAux_le_iff {fuel n k : ℕ} (h : n ≤ fuel) (hk : 0 < k) :
    (varintAux fuel n).length ≤ k ↔ n < 128 ^ k := by
  have hone : 128 ≤ 128 ^ k := Nat.le_self_pow hk.ne' 128
  induction fuel generalizing n k with
  | zero =>
      obtain rfl : n = 0 := by omega
      exact iff_of_true hk (by omega)
  | succ fuel ih =>
      rw [varintAux]
      by_cases hlast : n < 128
      · rw [if_pos hlast]
        exact iff_of_true hk (by omega)
      rw [if_neg hlast, List.length_cons]
      cases k with
      | zero => omega
      | succ k =>
          rcases Nat.eq_zero_or_pos k with rfl | hpos
          · -- a number with a further group has more than one
            have hmore : 0 < (varintAux fuel (n / 128)).length := by
              cases fuel with
              | zero => exact Nat.one_pos
              | succ fuel =>
                  rw [varintAux]
                  split_ifs <;> exact Nat.succ_pos _
            exact iff_of_false (by omega) (by omega)
          · have hrest : (varintAux fuel (n / 128)).length ≤ k ↔ n / 128 < 128 ^ k :=
              ih (by omega) hpos (Nat.le_self_pow hpos.ne' 128)
            rw [Nat.add_le_add_iff_right, hrest, Nat.div_lt_iff_lt_mul (by norm_num), pow_succ]

lemma length_varint_le_iff {n k : ℕ} (hk : 0 < k) : (varint n).length ≤ k ↔ n < 128 ^ k :=
  length_varintAux_le_iff le_rfl hk

/-- A number of 64 bits takes at most ten groups. -/
lemma length_varint_le {n : ℕ} (h : n < 2 ^ 64) : (varint n).length ≤ 10 :=
  (length_varint_le_iff (by norm_num)).mpr (h.trans (by norm_num))

/-- Reads a number of up to ten groups, of which the low 64 bits count. -/
def readVarint (bs : Bytes) : Option (ℕ × Bytes) :=
  (readGroups bs).bind fun p =>
    if bs.length ≤ p.2.length + 10 then some (p.1 % 2 ^ 64, p.2) else none

/-- Reads a length.  Ten groups are enough for the lengths of strings that exist; the
longer ones are there so that strings of any length are read back. -/
def readLength (bs : Bytes) : Option (ℕ × Bytes) :=
  (readGroups bs).bind fun p =>
    if bs.length ≤ p.2.length + 10 ∨ 2 ^ 64 ≤ p.1 then some p else none

/-- Every number of 64 bits is read back. -/
lemma readVarint_varint {n : ℕ} (h : n < 2 ^ 64) (r : Bytes) :
    readVarint (varint n ++ r) = some (n, r) := by
  have hten : (varint n ++ r).length ≤ r.length + 10 := by
    rw [List.length_append]
    have := length_varint_le h
    omega
  rw [readVarint, readGroups_varint, Option.bind_some, if_pos hten, Nat.mod_eq_of_lt h]

/-- Every length is read back. -/
@[simp] lemma readLength_varint (n : ℕ) (r : Bytes) : readLength (varint n ++ r) = some (n, r) := by
  rw [readLength, readGroups_varint, Option.bind_some]
  by_cases h : n < 2 ^ 64
  · have hten : (varint n ++ r).length ≤ r.length + 10 := by
      rw [List.length_append]
      have := length_varint_le h
      omega
    rw [if_pos (.inl hten)]
  · rw [if_pos (.inr (not_lt.mp h))]

lemma readVarint_append {q r : Bytes} {n : ℕ} (s : Bytes) (h : readVarint q = some (n, r)) :
    readVarint (q ++ s) = some (n, r ++ s) := by
  obtain ⟨p, hp, hn⟩ := Option.bind_eq_some_iff.mp h
  split_ifs at hn with hten
  obtain ⟨rfl, rfl⟩ := Prod.mk.inj (Option.some.inj hn)
  have hten' : (q ++ s).length ≤ (p.2 ++ s).length + 10 := by
    rw [List.length_append, List.length_append]
    omega
  rw [readVarint, readGroups_append s hp, Option.bind_some, if_pos hten']

lemma length_of_readVarint {q r : Bytes} {n : ℕ} (h : readVarint q = some (n, r)) :
    r.length < q.length := by
  obtain ⟨p, hp, hn⟩ := Option.bind_eq_some_iff.mp h
  split_ifs at hn with hten
  obtain ⟨-, rfl⟩ := Prod.mk.inj (Option.some.inj hn)
  exact length_of_readGroups hp

/-- The reader of numbers, one at a time. -/
def varintFramer : Framer UInt8 ℕ where
  step := readVarint
  stable s h := readVarint_append s h
  shrinks := length_of_readVarint

lemma varintFramer_encodes : varintFramer.Encodes varint fun n => n < 2 ^ 64 :=
  fun _ hn r => readVarint_varint hn r

/-- Numbers one behind the other, which have to exhaust the octets. -/
def readPacked (bs : Bytes) : Option (List ℕ) :=
  if (varintFramer.drain bs).2 = [] then some (varintFramer.drain bs).1 else none

lemma readPacked_flatMap {ns : List ℕ} (h : ∀ n ∈ ns, n < 2 ^ 64) :
    readPacked (ns.flatMap varint) = some ns := by
  have hdrain := varintFramer_encodes.drain_flatMap h
    (show varintFramer.step [] = none from rfl)
  rw [List.append_nil] at hdrain
  rw [readPacked, hdrain, if_pos rfl]

/-! ### Fields -/

/-- The payload of a field, in the four ways the format writes one. -/
inductive Payload where
  | varint (n : ℕ)
  | fixed64 (bs : Bytes)
  | bytes (bs : Bytes)
  | fixed32 (bs : Bytes)
  deriving DecidableEq, Repr

namespace Payload

/-- The wire type, the low three bits of a tag. -/
def wireType : Payload → ℕ
  | varint _ => 0
  | fixed64 _ => 1
  | bytes _ => 2
  | fixed32 _ => 5

/-- The octets of the payload behind the tag. -/
def encode : Payload → Bytes
  | varint n => Wire.varint n
  | fixed64 bs => bs
  | bytes bs => Wire.varint bs.length ++ bs
  | fixed32 bs => bs

/-- A number has 64 bits, and a payload of a fixed width has that width. -/
def WellFormed : Payload → Prop
  | varint n => n < 2 ^ 64
  | fixed64 bs => bs.length = 8
  | bytes _ => True
  | fixed32 bs => bs.length = 4

end Payload

/-- A numbered field. -/
structure Field where
  number : ℕ
  payload : Payload
  deriving DecidableEq, Repr

/-- A field with a number that the format has: 29 bits, and not zero. -/
structure Field.WellFormed (f : Field) : Prop where
  pos : 0 < f.number
  lt : f.number < 2 ^ 29
  payload : f.payload.WellFormed

/-- A field on the wire, its tag first. -/
def Field.encode (f : Field) : Bytes :=
  varint (f.number * 8 + f.payload.wireType) ++ f.payload.encode

/-- A field that is written under a condition, a value other than the default. -/
def written (p : Prop) [Decidable p] (f : Field) : List Field := if p then [f] else []

lemma wellFormed_of_mem_written {p : Prop} [Decidable p] {f : Field} (hf : f.WellFormed) :
    ∀ g ∈ written p f, g.WellFormed := by
  intro g hg
  rw [written] at hg
  split_ifs at hg with hp
  · obtain rfl := List.mem_singleton.mp hg
    exact hf
  · cases hg

/-- The number of octets of fields. -/
def size (fs : List Field) : ℕ := (fs.flatMap Field.encode).length

@[simp] lemma size_append (fs gs : List Field) : size (fs ++ gs) = size fs + size gs := by
  rw [size, List.flatMap_append, List.length_append, size, size]

lemma size_written (p : Prop) [Decidable p] (f : Field) :
    size (written p f) = if p then f.encode.length else 0 := by
  rw [size, written]
  split_ifs
  · rw [List.flatMap_singleton]
  · rfl

/-- The first `k` octets, when they are there. -/
def readExactly (k : ℕ) (bs : Bytes) : Option (Bytes × Bytes) :=
  if bs.length < k then none else some (bs.take k, bs.drop k)

/-- Reads the payload of a wire type; groups, the types 3 and 4, are not read. -/
def readPayload (wireType : ℕ) (bs : Bytes) : Option (Payload × Bytes) :=
  match wireType with
  | 0 => (readVarint bs).map fun p => (.varint p.1, p.2)
  | 1 => (readExactly 8 bs).map fun p => (.fixed64 p.1, p.2)
  | 2 => (readLength bs).bind fun l => (readExactly l.1 l.2).map fun p => (.bytes p.1, p.2)
  | 5 => (readExactly 4 bs).map fun p => (.fixed32 p.1, p.2)
  | _ => none

/-- Reads a tag, the low 32 bits of a number: the number of the field, which is not zero,
and the wire type. -/
def readTag (bs : Bytes) : Option ((ℕ × ℕ) × Bytes) :=
  (readVarint bs).bind fun tag =>
    if tag.1 % 2 ^ 32 / 8 = 0 then none
    else some ((tag.1 % 2 ^ 32 / 8, tag.1 % 2 ^ 32 % 8), tag.2)

/-- Reads one field and leaves what is behind it. -/
def readField (bs : Bytes) : Option (Field × Bytes) :=
  (readTag bs).bind fun tag =>
    (readPayload tag.1.2 tag.2).map fun p => (⟨tag.1.1, p.1⟩, p.2)

/-- A tag is read back. -/
lemma readTag_varint {number t : ℕ} (hpos : 0 < number) (hlt : number < 2 ^ 29) (ht : t < 8)
    (r : Bytes) : readTag (varint (number * 8 + t) ++ r) = some ((number, t), r) := by
  have hmod : (number * 8 + t) % 2 ^ 32 = number * 8 + t := Nat.mod_eq_of_lt (by omega)
  have hnumber : (number * 8 + t) / 8 = number := by omega
  have htype : (number * 8 + t) % 8 = t := by omega
  rw [readTag, readVarint_varint (by omega), Option.bind_some]
  simp only [hmod, hnumber, htype, hpos.ne', if_false]

lemma readExactly_length {k : ℕ} {b : Bytes} (hb : b.length = k) (r : Bytes) :
    readExactly k (b ++ r) = some (b, r) := by
  rw [readExactly, if_neg (by rw [List.length_append]; omega), List.take_left' hb,
    List.drop_left' hb]

/-! ### Stable readers -/

/-- A reader whose value once complete stays the same when more arrives, and which
never leaves more than it was given. -/
def Stable {β : Type*} (rd : Bytes → Option (β × Bytes)) : Prop :=
  ∀ q b r, rd q = some (b, r) → r.length ≤ q.length ∧ ∀ s, rd (q ++ s) = some (b, r ++ s)

section Stable

variable {β γ : Type*}

lemma Stable.map {rd : Bytes → Option (β × Bytes)} (h : Stable rd) (f : β → γ) :
    Stable fun bs => (rd bs).map fun p => (f p.1, p.2) := by
  intro q c r hq
  obtain ⟨p, hp, hpc⟩ := Option.map_eq_some_iff.mp hq
  obtain ⟨rfl, rfl⟩ := Prod.mk.inj hpc
  obtain ⟨hlen, happ⟩ := h q p.1 p.2 hp
  refine ⟨hlen, fun s => ?_⟩
  simp only [happ s, Option.map_some]

lemma Stable.bind {rd : Bytes → Option (β × Bytes)} {rd' : β → Bytes → Option (γ × Bytes)}
    (h : Stable rd) (h' : ∀ b, Stable (rd' b)) :
    Stable fun bs => (rd bs).bind fun p => rd' p.1 p.2 := by
  intro q c r hq
  obtain ⟨p, hp, hpc⟩ := Option.bind_eq_some_iff.mp hq
  obtain ⟨hlen, happ⟩ := h q p.1 p.2 hp
  obtain ⟨hlen', happ'⟩ := h' p.1 p.2 c r hpc
  refine ⟨hlen'.trans hlen, fun s => ?_⟩
  simp only [happ s, Option.bind_some, happ' s]

lemma stable_readVarint : Stable readVarint := fun _ _ _ h =>
  ⟨(length_of_readVarint h).le, fun s => readVarint_append s h⟩

lemma stable_readLength : Stable readLength := by
  intro q n r h
  obtain ⟨p, hp, hn⟩ := Option.bind_eq_some_iff.mp h
  split_ifs at hn with hten
  obtain rfl := Option.some.inj hn
  refine ⟨(length_of_readGroups hp).le, fun s => ?_⟩
  have hten' : (q ++ s).length ≤ (r ++ s).length + 10 ∨ 2 ^ 64 ≤ n := by
    rw [List.length_append, List.length_append]
    exact hten.imp_left fun (h : q.length ≤ r.length + 10) => by omega
  rw [readLength, readGroups_append s hp, Option.bind_some, if_pos hten']

lemma stable_readTag : Stable readTag := by
  intro q t r h
  obtain ⟨tag, htag, ht⟩ := Option.bind_eq_some_iff.mp h
  split_ifs at ht with hzero
  obtain ⟨rfl, rfl⟩ := Prod.mk.inj (Option.some.inj ht)
  obtain ⟨hlen, happ⟩ := stable_readVarint q tag.1 tag.2 htag
  refine ⟨hlen, fun s => ?_⟩
  rw [readTag, happ s, Option.bind_some, if_neg hzero]

lemma stable_readExactly (k : ℕ) : Stable (readExactly k) := by
  intro q b r h
  rw [readExactly] at h
  split_ifs at h with hk
  obtain ⟨rfl, rfl⟩ := Prod.mk.inj (Option.some.inj h)
  refine ⟨by rw [List.length_drop]; omega, fun s => ?_⟩
  rw [readExactly, if_neg (by rw [List.length_append]; omega),
    List.take_append_of_le_length (by omega), List.drop_append_of_le_length (by omega)]

lemma stable_readPayload (t : ℕ) : Stable (readPayload t) := by
  rcases t with _ | _ | _ | _ | _ | _ | t
  case zero => exact stable_readVarint.map _
  case succ.zero => exact (stable_readExactly 8).map _
  case succ.succ.zero => exact stable_readLength.bind fun l => (stable_readExactly l).map _
  case succ.succ.succ.succ.succ.zero => exact (stable_readExactly 4).map _
  all_goals
    intro q p r h
    cases h

end Stable

lemma readPayload_encode {p : Payload} (hp : p.WellFormed) (r : Bytes) :
    readPayload p.wireType (p.encode ++ r) = some (p, r) := by
  cases p with
  | varint n =>
      simp only [readPayload, Payload.wireType, Payload.encode, readVarint_varint hp,
        Option.map_some]
  | fixed64 bs =>
      simp only [readPayload, Payload.wireType, Payload.encode, readExactly_length hp,
        Option.map_some]
  | bytes bs =>
      simp only [readPayload, Payload.wireType, Payload.encode, List.append_assoc,
        readLength_varint, Option.bind_some, readExactly_length rfl, Option.map_some]
  | fixed32 bs =>
      simp only [readPayload, Payload.wireType, Payload.encode, readExactly_length hp,
        Option.map_some]

/-- A tag takes an octet at least. -/
lemma length_of_readTag {q r : Bytes} {t : ℕ × ℕ} (h : readTag q = some (t, r)) :
    r.length < q.length := by
  obtain ⟨tag, htag, ht⟩ := Option.bind_eq_some_iff.mp h
  split_ifs at ht
  obtain ⟨-, rfl⟩ := Prod.mk.inj (Option.some.inj ht)
  exact length_of_readVarint htag

/-- The reader of fields, one at a time. -/
def fieldFramer : Framer UInt8 Field where
  step := readField
  stable := by
    intro q f r s h
    have hstable : Stable readField :=
      stable_readTag.bind fun tag => (stable_readPayload tag.2).map (Field.mk tag.1)
    exact (hstable q f r h).2 s
  shrinks := by
    intro q f r h
    obtain ⟨tag, htag, hp⟩ := Option.bind_eq_some_iff.mp h
    obtain ⟨x, hx, hxf⟩ := Option.map_eq_some_iff.mp hp
    obtain ⟨rfl, rfl⟩ := Prod.mk.inj hxf
    exact (stable_readPayload _ _ _ _ hx).1.trans_lt (length_of_readTag htag)

/-- The reader takes every encoded field off the front. -/
lemma fieldFramer_encodes : fieldFramer.Encodes Field.encode Field.WellFormed := by
  intro f hf r
  have htype : f.payload.wireType < 8 := by cases f.payload <;> simp [Payload.wireType]
  change readField (f.encode ++ r) = some (f, r)
  rw [readField, Field.encode, List.append_assoc, readTag_varint hf.pos hf.lt htype,
    Option.bind_some]
  simp only [readPayload_encode hf.payload, Option.map_some]

/-- The fields of a string of octets, and whether they exhaust it. -/
def parseFields (bs : Bytes) : Bool × List Field :=
  ((fieldFramer.drain bs).2.isEmpty, (fieldFramer.drain bs).1)

/-- **Encoded fields are read back**, all of them and nothing else. -/
theorem parseFields_flatMap {fs : List Field} (hfs : ∀ f ∈ fs, f.WellFormed) :
    parseFields (fs.flatMap Field.encode) = (true, fs) := by
  have hdrain := fieldFramer_encodes.drain_flatMap hfs (show fieldFramer.step [] = none from rfl)
  rw [List.append_nil] at hdrain
  rw [parseFields, hdrain]
  rfl

/-! ### Scalars -/

/-- An `int32` on the wire: sign-extended to 64 bits. -/
def ofInt32 (n : Int32) : ℕ := (n.toBitVec.signExtend 64).toNat

/-- A number from the wire in an `int32` field: its low 32 bits. -/
def toInt32 (n : ℕ) : Int32 := Int32.ofBitVec (BitVec.ofNat 32 n)

@[simp] lemma toInt32_ofInt32 (n : Int32) : toInt32 (ofInt32 n) = n := by
  have hlow : BitVec.ofNat 32 (n.toBitVec.signExtend 64).toNat = n.toBitVec := by
    apply BitVec.eq_of_getLsbD_eq
    intro i hi
    have hwide : i < 64 := by omega
    rw [BitVec.getLsbD_ofNat, BitVec.testBit_toNat, BitVec.getLsbD_signExtend, if_pos hi,
      decide_eq_true hi, decide_eq_true hwide, Bool.true_and, Bool.true_and]
  rw [toInt32, ofInt32, hlow]
  rfl

lemma ofInt32_lt (n : Int32) : ofInt32 n < 2 ^ 64 := (n.toBitVec.signExtend 64).isLt

/-- A negative number fills all 64 bits. -/
lemma le_ofInt32 {n : Int32} (h : n < 0) : 2 ^ 63 ≤ ofInt32 n := by
  have hmsb : n.toBitVec.msb = true := by
    rw [BitVec.msb_eq_toInt, decide_eq_true_iff]
    exact Int32.lt_iff_toInt_lt.mp h
  rw [ofInt32, BitVec.toNat_signExtend, if_pos hmsb]
  omega

/-- Packed `int32`s are read back. -/
lemma readPacked_ofInt32 (ns : List Int32) :
    (readPacked ((ns.map ofInt32).flatMap varint)).map (List.map toInt32) = some ns := by
  have hlt : ∀ k ∈ ns.map ofInt32, k < 2 ^ 64 := by
    intro k hk
    obtain ⟨n, -, rfl⟩ := List.mem_map.mp hk
    exact ofInt32_lt n
  have hround : (ns.map ofInt32).map toInt32 = ns := by
    rw [List.map_map]
    exact List.map_id'' toInt32_ofInt32 ns
  rw [readPacked_flatMap hlt, Option.map_some, hround]

/-- A field with an `int32`. -/
lemma wellFormed_int32 {number : ℕ} (h : 0 < number ∧ number < 2 ^ 29) (n : Int32) :
    (Field.mk number (.varint (ofInt32 n))).WellFormed := ⟨h.1, h.2, ofInt32_lt n⟩

/-- A field with a `bool` that is set. -/
lemma wellFormed_true {number : ℕ} (h : 0 < number ∧ number < 2 ^ 29) :
    (Field.mk number (.varint 1)).WellFormed := ⟨h.1, h.2, Nat.one_lt_two_pow (by norm_num)⟩

/-- A field with octets. -/
lemma wellFormed_bytes {number : ℕ} (h : 0 < number ∧ number < 2 ^ 29) (bs : Bytes) :
    (Field.mk number (.bytes bs)).WellFormed := ⟨h.1, h.2, trivial⟩

/-- A `string` from the wire, which has to be UTF-8. -/
def toString? (bs : Bytes) : Option String := String.fromUTF8? ⟨bs.toArray⟩

@[simp] lemma toString?_ofString (s : String) : toString? (Bytes.ofString s) = some s := by
  rw [toString?, Bytes.ofString, Array.toArray_toList, String.fromUTF8?, dif_pos s.isValidUTF8]
  rfl

/-! ### Messages -/

/-- A message folded from its fields; a field that does not decode ends the fold
with what has been decoded so far. -/
def foldFields {M : Type*} (merge : M → Field → Option M) : M → List Field → Bool × M
  | m, [] => (true, m)
  | m, f :: fs =>
      match merge m f with
      | none => (false, m)
      | some m' => foldFields merge m' fs

lemma foldFields_cons {M : Type*} {merge : M → Field → Option M} {m m' : M} {f : Field}
    (h : merge m f = some m') (fs : List Field) :
    foldFields merge m (f :: fs) = foldFields merge m' fs := by
  rw [foldFields, h]

lemma foldFields_append {M : Type*} {merge : M → Field → Option M} {m m' : M} {fs gs : List Field}
    (h : foldFields merge m fs = (true, m')) :
    foldFields merge m (fs ++ gs) = foldFields merge m' gs := by
  induction fs generalizing m with
  | nil =>
      obtain rfl : m = m' := congrArg Prod.snd h
      rfl
  | cons f fs ih =>
      rw [foldFields] at h
      rw [List.cons_append, foldFields]
      cases hf : merge m f with
      | none => rw [hf] at h; cases h
      | some m₁ => rw [hf] at h; exact ih h

/-- A field that is written unless its value is the default is merged as that value. -/
lemma foldFields_written {M : Type*} {merge : M → Field → Option M} {m m' : M} {p : Prop}
    [Decidable p] {f : Field} (h : p → merge m f = some m') (hdefault : ¬ p → m = m') :
    foldFields merge m (written p f) = (true, m') := by
  rw [written]
  split_ifs with hp
  · exact foldFields_cons (h hp) []
  · rw [hdefault hp, foldFields]

/-- A message parsed from octets, starting from `m`. -/
def parseMessage {M : Type*} (merge : M → Field → Option M) (m : M) (bs : Bytes) : Bool × M :=
  ((parseFields bs).1 && (foldFields merge m (parseFields bs).2).1,
    (foldFields merge m (parseFields bs).2).2)

/-- Encoded fields are parsed as the message folded from them. -/
lemma parseMessage_flatMap {M : Type*} (merge : M → Field → Option M) (m : M) {fs : List Field}
    (hfs : ∀ f ∈ fs, f.WellFormed) :
    parseMessage merge m (fs.flatMap Field.encode) = foldFields merge m fs := by
  rw [parseMessage, parseFields_flatMap hfs, Bool.true_and]

/-- Octets without a first field leave the message as it was. -/
lemma parseMessage_of_readField_none {M : Type*} (merge : M → Field → Option M) (m : M)
    {bs : Bytes} (h : readField bs = none) : (parseMessage merge m bs).2 = m := by
  rw [parseMessage, parseFields, fieldFramer.drain_of_none h]
  rfl

end Wire
