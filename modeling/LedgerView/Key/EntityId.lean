import LedgerView.Key.Error
import LedgerView.Text.Blank
import LedgerView.Text.Decimal

/-
  Entity ids.

  An entity is named by its shard, its realm and its number,
  written with dots between them.  A lone number stands for the
  entity of that number in shard 0 and realm 0.  Ids are
  ordered by shard, then realm, then number.

  Key definitions include:
    * `EntityId`
    * `EntityId.compare`
    * `EntityId.toString`
    * `EntityId.parse`
-/

namespace LedgerView

/- The name of an account or a token. -/
structure EntityId where
  shard : UInt64
  realm : UInt64
  num : UInt64
deriving Repr, DecidableEq, Inhabited

namespace EntityId

------------------------------------------------------------
-- Order
------------------------------------------------------------

/- Shard decides first, then realm, then number. -/
def compare
    (a b : EntityId) : Ordering :=
  ((Ord.compare a.shard b.shard).then
    (Ord.compare a.realm b.realm)).then
      (Ord.compare a.num b.num)

instance : Ord EntityId :=
  ⟨EntityId.compare⟩

------------------------------------------------------------
-- Writing
------------------------------------------------------------

/- The three numbers with dots between them. -/
def toChars
    (e : EntityId) : List Char :=
  Text.decimal e.shard.toNat ++ ['.'] ++
    Text.decimal e.realm.toNat ++ ['.'] ++
      Text.decimal e.num.toNat

/- The canonical text of an entity id. -/
protected def toString
    (e : EntityId) : String :=
  String.ofList e.toChars

instance : ToString EntityId :=
  ⟨EntityId.toString⟩

------------------------------------------------------------
-- Reading
------------------------------------------------------------

/- One part of an id: a 64-bit number, with or without plus. -/
def readPart?
    (s : List Char) : Option UInt64 :=
  (Text.natural? (2 ^ 64) s).map UInt64.ofNat

/- Read a trimmed text. -/
def readChars?
    (s : List Char) : Option EntityId :=
  match (Text.splitAll (· == '.') s).mapM readPart? with
  | some [num] => some ⟨0, 0, num⟩
  | some [shard, realm, num] => some ⟨shard, realm, num⟩
  | _ => none

/- Read an entity id; blanks around it do not count. -/
def parse
    (text : String) : Except KeyError EntityId :=
  match readChars? (Text.trimChars text.toList) with
  | some e => .ok e
  | none => .error (.entityId text)

end EntityId

end LedgerView
