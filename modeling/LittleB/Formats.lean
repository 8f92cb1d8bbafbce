import LittleB.Protobuf
import Mathlib.Data.Int.Log

/-!
The wire formats of the requests and the responses of `libsrc/proto` and
`minigame_server/proto`.

* `Double.ofBits`, `Double.bits`: a `double` as its 64 bits;
* `Format`: a message type by the fields it writes, those that differ from their
  defaults in the order of their numbers, and by how it takes one in;
* `LoginReq.format`, `RegisterReq.format`, …: the requests;
* `LoginRsp.format`, `RegisterRsp.format`, …: the responses, `statusFields` being the
  fields that all of them have.
-/

namespace LittleB

open Wire

/-! ### Doubles -/

namespace Double

/-- The `double` with given bits: a sign, eleven bits of exponent and the fraction. -/
def ofBits (n : ℕ) : Double :=
  let e : ℕ := n / 2 ^ 52 % 2 ^ 11
  let f : ℕ := n % 2 ^ 52
  if e = 2 ^ 11 - 1 then
    if f = 0 then .infinite (2 ^ 63 ≤ n) else .nan
  else
    let q : ℚ := if e = 0 then f * 2 ^ (-1074 : ℤ) else (2 ^ 52 + f) * 2 ^ ((e : ℤ) - 1075)
    .finite (if 2 ^ 63 ≤ n then -q else q)

/-- The bits of a `double`; the exponent that the smallest numbers share is `-1022`. -/
def bits : Double → ℕ
  | finite q =>
      let sign := if q < 0 then 2 ^ 63 else 0
      let e := max (Int.log 2 |q|) (-1022)
      if q = 0 then 0
      else if 1023 < e then sign + (2 ^ 11 - 1) * 2 ^ 52
      else sign + (e + 1022).toNat * 2 ^ 52 + ⌊|q| * 2 ^ (52 - e)⌋₊
  | infinite negative => (if negative then 2 ^ 63 else 0) + (2 ^ 11 - 1) * 2 ^ 52
  | nan => (2 ^ 11 - 1) * 2 ^ 52 + 2 ^ 51

/-- The field of a `double`. -/
def field (number : ℕ) (d : Double) : Field := ⟨number, .fixed64 (Bytes.toLE 8 d.bits)⟩

end Double

/-! ### Formats -/

/-- A message type on the wire. -/
structure Format (M : Type) where
  fields : M → List Field
  merge : M → Field → Option M
  empty : M

namespace Format

variable {M : Type} (format : Format M)

def SerializeToArray (m : M) : Bytes := (format.fields m).flatMap Field.encode

def ParseFromArray : Bytes → Bool × M := parseMessage format.merge format.empty

/-- A serialized message is folded from its fields. -/
lemma parse_serialize {m : M} (h : ∀ f ∈ format.fields m, f.WellFormed) :
    format.ParseFromArray (format.SerializeToArray m)
      = foldFields format.merge format.empty (format.fields m) :=
  parseMessage_flatMap format.merge format.empty h

end Format

/-- A repeated field of numbers, written packed. -/
def packed (number : ℕ) (ns : List Int32) : List Field :=
  written (ns ≠ []) ⟨number, .bytes ((ns.map ofInt32).flatMap varint)⟩

/-! ### Requests -/

def LoginReq.format : Format LoginReq := ⟨fields, merge, {}⟩

namespace RegisterReq

def fields (m : RegisterReq) : List Field :=
  written (m.account ≠ "") ⟨1, .bytes (Bytes.ofString m.account)⟩ ++
    (written (m.password ≠ "") ⟨2, .bytes (Bytes.ofString m.password)⟩ ++
      written (m.rpcid ≠ 0) ⟨90, .varint (ofInt32 m.rpcid)⟩)

def merge (m : RegisterReq) : Field → Option RegisterReq
  | ⟨1, .bytes bs⟩ => (toString? bs).map fun s => { m with account := s }
  | ⟨2, .bytes bs⟩ => (toString? bs).map fun s => { m with password := s }
  | ⟨90, .varint n⟩ => some { m with rpcid := toInt32 n }
  | _ => some m

def format : Format RegisterReq := ⟨fields, merge, {}⟩

end RegisterReq

namespace TaskQueryReq

def fields (m : TaskQueryReq) : List Field := written (m.rpcid ≠ 0) ⟨90, .varint (ofInt32 m.rpcid)⟩

def merge (m : TaskQueryReq) : Field → Option TaskQueryReq
  | ⟨90, .varint n⟩ => some { m with rpcid := toInt32 n }
  | _ => some m

def format : Format TaskQueryReq := ⟨fields, merge, {}⟩

end TaskQueryReq

namespace EraseRoleReq

def fields (m : EraseRoleReq) : List Field := written (m.rpcid ≠ 0) ⟨90, .varint (ofInt32 m.rpcid)⟩

def merge (m : EraseRoleReq) : Field → Option EraseRoleReq
  | ⟨90, .varint n⟩ => some { m with rpcid := toInt32 n }
  | _ => some m

def format : Format EraseRoleReq := ⟨fields, merge, {}⟩

end EraseRoleReq

namespace TaskUpdateReq

def fields (m : TaskUpdateReq) : List Field :=
  packed 1 m.finished_task_ids ++
    (written (m.position_x ≠ .finite 0) (m.position_x.field 3) ++
      (written (m.position_y ≠ .finite 0) (m.position_y.field 4) ++
        written (m.rpcid ≠ 0) ⟨90, .varint (ofInt32 m.rpcid)⟩))

/-- The ids may come one by one or packed. -/
def merge (m : TaskUpdateReq) : Field → Option TaskUpdateReq
  | ⟨1, .varint n⟩ => some { m with finished_task_ids := m.finished_task_ids ++ [toInt32 n] }
  | ⟨1, .bytes bs⟩ => (readPacked bs).map fun ns =>
      { m with finished_task_ids := m.finished_task_ids ++ ns.map toInt32 }
  | ⟨3, .fixed64 bs⟩ => some { m with position_x := .ofBits (Bytes.ofLE bs) }
  | ⟨4, .fixed64 bs⟩ => some { m with position_y := .ofBits (Bytes.ofLE bs) }
  | ⟨90, .varint n⟩ => some { m with rpcid := toInt32 n }
  | _ => some m

def format : Format TaskUpdateReq := ⟨fields, merge, {}⟩

end TaskUpdateReq

/-! ### Responses -/

/-- The fields that every response has. -/
def statusFields (rpcid error : Int32) (message : String) : List Field :=
  written (rpcid ≠ 0) ⟨90, .varint (ofInt32 rpcid)⟩ ++
    (written (error ≠ 0) ⟨91, .varint (ofInt32 error)⟩ ++
      written (message ≠ "") ⟨92, .bytes (Bytes.ofString message)⟩)

namespace LoginRsp

def fields (m : LoginRsp) : List Field :=
  written (m.gid ≠ 0) ⟨1, .varint (ofInt32 m.gid)⟩ ++
    (written m.is_returning_visitor ⟨2, .varint 1⟩ ++ statusFields m.rpcid m.error m.message)

def merge (m : LoginRsp) : Field → Option LoginRsp
  | ⟨1, .varint n⟩ => some { m with gid := toInt32 n }
  | ⟨2, .varint n⟩ => some { m with is_returning_visitor := n != 0 }
  | ⟨90, .varint n⟩ => some { m with rpcid := toInt32 n }
  | ⟨91, .varint n⟩ => some { m with error := toInt32 n }
  | ⟨92, .bytes bs⟩ => (toString? bs).map fun s => { m with message := s }
  | _ => some m

def format : Format LoginRsp := ⟨fields, merge, {}⟩

end LoginRsp

namespace RegisterRsp

def fields (m : RegisterRsp) : List Field :=
  written (m.gid ≠ 0) ⟨1, .varint (ofInt32 m.gid)⟩ ++ statusFields m.rpcid m.error m.message

def merge (m : RegisterRsp) : Field → Option RegisterRsp
  | ⟨1, .varint n⟩ => some { m with gid := toInt32 n }
  | ⟨90, .varint n⟩ => some { m with rpcid := toInt32 n }
  | ⟨91, .varint n⟩ => some { m with error := toInt32 n }
  | ⟨92, .bytes bs⟩ => (toString? bs).map fun s => { m with message := s }
  | _ => some m

def format : Format RegisterRsp := ⟨fields, merge, {}⟩

end RegisterRsp

namespace EraseRoleRsp

def fields (m : EraseRoleRsp) : List Field := statusFields m.rpcid m.error m.message

def merge (m : EraseRoleRsp) : Field → Option EraseRoleRsp
  | ⟨90, .varint n⟩ => some { m with rpcid := toInt32 n }
  | ⟨91, .varint n⟩ => some { m with error := toInt32 n }
  | ⟨92, .bytes bs⟩ => (toString? bs).map fun s => { m with message := s }
  | _ => some m

def format : Format EraseRoleRsp := ⟨fields, merge, {}⟩

end EraseRoleRsp

namespace TaskUpdateRsp

def fields (m : TaskUpdateRsp) : List Field := statusFields m.rpcid m.error m.message

def merge (m : TaskUpdateRsp) : Field → Option TaskUpdateRsp
  | ⟨90, .varint n⟩ => some { m with rpcid := toInt32 n }
  | ⟨91, .varint n⟩ => some { m with error := toInt32 n }
  | ⟨92, .bytes bs⟩ => (toString? bs).map fun s => { m with message := s }
  | _ => some m

def format : Format TaskUpdateRsp := ⟨fields, merge, {}⟩

end TaskUpdateRsp

namespace TaskQueryRsp

def fields (m : TaskQueryRsp) : List Field :=
  packed 1 m.done_tasks ++
    (written (m.position_x ≠ .finite 0) (m.position_x.field 3) ++
      (written (m.position_y ≠ .finite 0) (m.position_y.field 4) ++
        statusFields m.rpcid m.error m.message))

def merge (m : TaskQueryRsp) : Field → Option TaskQueryRsp
  | ⟨1, .varint n⟩ => some { m with done_tasks := m.done_tasks ++ [toInt32 n] }
  | ⟨1, .bytes bs⟩ => (readPacked bs).map fun ns =>
      { m with done_tasks := m.done_tasks ++ ns.map toInt32 }
  | ⟨3, .fixed64 bs⟩ => some { m with position_x := .ofBits (Bytes.ofLE bs) }
  | ⟨4, .fixed64 bs⟩ => some { m with position_y := .ofBits (Bytes.ofLE bs) }
  | ⟨90, .varint n⟩ => some { m with rpcid := toInt32 n }
  | ⟨91, .varint n⟩ => some { m with error := toInt32 n }
  | ⟨92, .bytes bs⟩ => (toString? bs).map fun s => { m with message := s }
  | _ => some m

def format : Format TaskQueryRsp := ⟨fields, merge, {}⟩

end TaskQueryRsp

end LittleB
