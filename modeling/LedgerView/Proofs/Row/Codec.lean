import LedgerView.Proofs.Key.Codec
import LedgerView.Proofs.Reading
import LedgerView.Row.Decode

/-
  Rows are read back as they were written.

  Each kind of value has a reader and a writer, and what is
  written of a proper value is read as that value.  Only proper
  values are read, whatever shape the JSON has in which they
  stand: a moment is proper if its nanoseconds are less than a
  second, and a row if all its moments are.

  Key definitions include:
    * `Json.Faithful`
    * `Row.kind`
    * `Row.stamps`

  Key theorems include:
    * `Json.Faithful.nullable`
    * `Transaction.faithful`
    * `Balance.faithful`
    * `Account.faithful`
    * `Row.decode_encode`
    * `Row.reads_as_encoded`
-/

namespace LedgerView

namespace Json

variable {α : Type}

/-
  What is written of a proper value is read as that value, and
  nothing but proper values is read.
-/
structure Faithful
    (read : Json → Decoded α)
    (write : α → Json)
    (Proper : α → Prop) : Prop where
  writes : ∀ a, Proper a → read (write a) = .ok a
  proper : ∀ value a, read value = .ok a → Proper a

------------------------------------------------------------
-- Single Values
------------------------------------------------------------

/- Strings are read as they were written. -/
theorem faithful_string :
    Faithful asString .string fun _ => True where
  writes := fun _ _ => rfl
  proper := fun _ _ _ => trivial

/- So are whole numbers of 64 bits. -/
theorem faithful_uint64 :
    Faithful asUInt64 (fun n => .integer n.toNat)
      fun _ => True where
  writes := by
    intro n _
    have hRange :
        (0 ≤ (n.toNat : Int) && (n.toNat : Int) < 2 ^ 64) = true := by
      have hWord := n.toNat_lt
      simp only [Bool.and_eq_true, decide_eq_true_eq]
      omega
    unfold asUInt64
    dsimp only
    rw [if_pos hRange, Int.toNat_natCast, UInt64.ofNat_toNat]
  proper := fun _ _ _ => trivial

/- So are those of 32 bits. -/
theorem faithful_uint32 :
    Faithful asUInt32 (fun n => .integer n.toNat)
      fun _ => True where
  writes := by
    intro n _
    have hRange :
        (0 ≤ (n.toNat : Int) && (n.toNat : Int) < 2 ^ 32) = true := by
      have hWord := n.toNat_lt
      simp only [Bool.and_eq_true, decide_eq_true_eq]
      omega
    unfold asUInt32
    dsimp only
    rw [if_pos hRange, Int.toNat_natCast, UInt32.ofNat_toNat]
  proper := fun _ _ _ => trivial

/- Keys in strings are read as their codec reads them. -/
theorem faithful_key
    {codec : TextCodec α}
    {Spells : List Char → α → Prop}
    {Proper : α → Prop}
    (hExact : codec.Exact Spells Proper) :
    Faithful
      (fun value => do
        (codec.read (← value.asString)).mapError RowError.key)
      (fun k => .string (codec.write k)) Proper where
  writes := by
    intro k hk
    show (codec.read (codec.write k)).mapError RowError.key = _
    rw [hExact.writes k hk]
    rfl
  proper := by
    intro value k hRead
    rw [bind_eq_ok_iff] at hRead
    rcases hRead with ⟨text, -, hRead⟩
    cases hText : codec.read text with
    | error e =>
        rw [hText] at hRead
        cases hRead
    | ok k' =>
        rw [hText] at hRead
        cases hRead
        exact hExact.proper text k hText

/- Moments within a second are read as they were written. -/
theorem faithful_timestamp :
    Faithful asTimestamp (fun t => .string t.toString)
      fun t => t.nanos.toNat < 10 ^ 9 := by
  have hKey := faithful_key Timestamp.exact
  rw [Timestamp.codec_read, Timestamp.codec_write] at hKey
  exact hKey

/- Entity ids are read as they were written. -/
theorem faithful_entityId :
    Faithful asEntityId (fun e => .string e.toString)
      fun _ => True := by
  have hKey := faithful_key EntityId.exact
  rw [EntityId.codec_read, EntityId.codec_write] at hKey
  exact hKey

/- A value or none is, if null stands for no value. -/
theorem Faithful.nullable
    {read : Json → Decoded α}
    {write : α → Json}
    {Proper : α → Prop}
    (hFaithful : Faithful read write Proper)
    (hNull : ∀ a, write a ≠ .null) :
    Faithful (nullable read) (fun o => (o.map write).getD .null)
      fun o => ∀ a ∈ o, Proper a where
  writes := by
    intro o ho
    cases o with
    | none => rfl
    | some a =>
        have hRead := hFaithful.writes a (ho a rfl)
        unfold Json.nullable
        split
        · next hWrite => exact absurd hWrite (hNull a)
        · show (read (write a)).map some = _
          rw [hRead]
          rfl
  proper := by
    intro value o hRead a ha
    unfold Json.nullable at hRead
    split at hRead
    · cases hRead
      cases ha
    · rcases map_eq_ok_iff.mp hRead with ⟨b, hValue, hSame⟩
      cases hSame
      cases ha
      exact hFaithful.proper value a hValue

/- A moment or none is read as it was written. -/
theorem faithful_timestamp? :
    Faithful (nullable asTimestamp) encodeTimestamp?
      fun o => ∀ t ∈ o, t.nanos.toNat < 10 ^ 9 := by
  have hWrite :
      encodeTimestamp? =
        fun o => (o.map fun t => Json.string t.toString).getD .null :=
    funext fun o => by cases o <;> rfl
  rw [hWrite]
  exact faithful_timestamp.nullable fun _ hNull => by cases hNull

/- So is an entity id or none. -/
theorem faithful_entityId? :
    Faithful (nullable asEntityId) encodeEntityId?
      fun o => ∀ e ∈ o, True := by
  have hWrite :
      encodeEntityId? =
        fun o => (o.map fun e => Json.string e.toString).getD .null :=
    funext fun o => by cases o <;> rfl
  rw [hWrite]
  exact faithful_entityId.nullable fun _ hNull => by cases hNull

------------------------------------------------------------
-- Fields and Items
------------------------------------------------------------

section Parts

variable {fields : List (String × Json)} {name : String}
variable {read : Json → Decoded α} {write : α → Json}
variable {Proper : α → Prop}

/- A field that was written is read. -/
theorem Faithful.field?_eq
    (hFaithful : Faithful read write Proper)
    {a : α}
    (ha : Proper a)
    (hLookup : lookup? fields name = some (write a)) :
    field? fields name read = .ok (some a) := by
  unfold field?
  rw [hLookup]
  dsimp only
  rw [hFaithful.writes a ha]
  rfl

/- So is one with a default. -/
theorem Faithful.fieldOr_eq
    (hFaithful : Faithful read write Proper)
    {a : α}
    (ha : Proper a)
    (hLookup : lookup? fields name = some (write a))
    (default : α) :
    fieldOr fields name default read = .ok a := by
  unfold fieldOr
  rw [hFaithful.field?_eq ha hLookup]
  rfl

/- Only proper values are read of a field. -/
theorem Faithful.proper_of_field?
    (hFaithful : Faithful read write Proper)
    {a : α}
    (hRead : field? fields name read = .ok (some a)) :
    Proper a := by
  unfold field? at hRead
  split at hRead
  · next value hLookup =>
      rcases map_eq_ok_iff.mp hRead with ⟨b, hValue, hSame⟩
      cases hSame
      exact hFaithful.proper value a hValue
  · cases hRead

/- Nor any other of one whose default is proper. -/
theorem Faithful.proper_of_fieldOr
    (hFaithful : Faithful read write Proper)
    {a default : α}
    (hDefault : Proper default)
    (hRead : fieldOr fields name default read = .ok a) :
    Proper a := by
  unfold fieldOr at hRead
  rw [bind_eq_ok_iff] at hRead
  rcases hRead with ⟨o, hField, hGet⟩
  cases o with
  | none =>
      cases hGet
      exact hDefault
  | some b =>
      cases hGet
      exact hFaithful.proper_of_field? hField

/- A field that has to be there is. -/
theorem need_eq_ok_iff
    {o : Option α}
    {a : α} :
    need name o = .ok a ↔ o = some a := by
  cases o with
  | none =>
      constructor
      · intro hNeed
        cases hNeed
      · intro hSome
        cases hSome
  | some b =>
      constructor
      · intro hNeed
        cases hNeed
        rfl
      · intro hSome
        cases hSome
        rfl

/- Only proper values are read of an item. -/
theorem Faithful.proper_of_item
    (hFaithful : Faithful read write Proper)
    {items rest : List Json}
    {a : α}
    (hRead : (item read).run items = .ok (a, rest)) :
    Proper a := by
  cases items with
  | nil => cases hRead
  | cons value more =>
      have hMore :
          (read value >>= fun b => pure (b, more)) =
            .ok (a, rest) :=
        hRead
      rw [bind_eq_ok_iff] at hMore
      rcases hMore with ⟨b, hValue, hSame⟩
      cases hSame
      exact hFaithful.proper value a hValue

/- Nor any other of one whose default is proper. -/
theorem Faithful.proper_of_itemOr
    (hFaithful : Faithful read write Proper)
    {items rest : List Json}
    {a default : α}
    (hDefault : Proper default)
    (hRead : (itemOr default read).run items = .ok (a, rest)) :
    Proper a := by
  cases items with
  | nil =>
      cases hRead
      exact hDefault
  | cons value more =>
      have hItem : (item read).run (value :: more) = .ok (a, rest) :=
        hRead
      exact hFaithful.proper_of_item hItem

/- A record that fills an array is read of its items. -/
theorem run_of_wholeArray
    {items : List Json}
    {record : StateT (List Json) (Except RowError) α}
    {a : α}
    (hRead : wholeArray items record = .ok a) :
    record.run items = .ok (a, []) := by
  unfold wholeArray at hRead
  rw [bind_eq_ok_iff] at hRead
  rcases hRead with ⟨⟨b, rest⟩, hRun, hEnd⟩
  dsimp only at hEnd
  split at hEnd
  · next hEmpty =>
      cases hEnd
      rw [hRun, List.isEmpty_iff.mp hEmpty]
  · cases hEnd

/- What is read in two steps of an array is read in both. -/
theorem run_bind_eq_ok_iff
    {β : Type}
    {items rest : List Json}
    {first : StateT (List Json) (Except RowError) α}
    {next : α → StateT (List Json) (Except RowError) β}
    {b : β} :
    (first >>= next).run items = .ok (b, rest) ↔
      ∃ a more,
        first.run items = .ok (a, more) ∧
          (next a).run more = .ok (b, rest) := by
  rw [StateT.run_bind, bind_eq_ok_iff, Prod.exists]

end Parts

end Json

------------------------------------------------------------
-- Records
------------------------------------------------------------

open Json

/- The moments of a balance. -/
def Balance.stamps
    (balance : Balance) : List Timestamp :=
  balance.timestamp.toList

/- The moments of an account. -/
def Account.stamps
    (row : Account) : List Timestamp :=
  (row.balance.map Balance.stamps).getD [] ++
    row.createdTimestamp.toList

/- Balances are read as they were written. -/
theorem Balance.faithful :
    Faithful decode encode
      fun b => ∀ t ∈ b.stamps, t.nanos.toNat < 10 ^ 9 where
  writes := by
    intro b hStamps
    have hStamp : ∀ t ∈ b.timestamp, t.nanos.toNat < 10 ^ 9 :=
      fun t ht => hStamps t (Option.mem_toList.mpr ht)
    unfold encode decode
    dsimp only
    rw [faithful_uint64.fieldOr_eq trivial rfl,
      faithful_timestamp?.fieldOr_eq hStamp rfl]
    rfl
  proper := by
    intro value b hRead t ht
    have hNone :
        ∀ t ∈ (none : Option Timestamp), t.nanos.toNat < 10 ^ 9 :=
      fun t ht => nomatch ht
    unfold decode at hRead
    split at hRead
    · simp only [bind_eq_ok_iff] at hRead
      rcases hRead with ⟨amount, -, stamp, hStamp, hRow⟩
      cases hRow
      exact
        faithful_timestamp?.proper_of_fieldOr hNone hStamp t
          (Option.mem_toList.mp ht)
    · have hRun := run_of_wholeArray hRead
      simp only [run_bind_eq_ok_iff] at hRun
      rcases hRun with
        ⟨amount, _, -, stamp, _, hStamp, hRow⟩
      cases hRow
      exact
        faithful_timestamp?.proper_of_itemOr hNone hStamp t
          (Option.mem_toList.mp ht)
    · cases hRead

/- Transactions are read as they were written. -/
theorem Transaction.faithful :
    Faithful decode encode
      fun row => row.consensusTimestamp.nanos.toNat < 10 ^ 9 where
  writes := by
    intro row hStamp
    have hEntity : ∀ e ∈ row.entityId, True := fun _ _ => trivial
    unfold encode decode
    dsimp only
    rw [faithful_uint64.fieldOr_eq trivial rfl,
      faithful_timestamp.field?_eq hStamp rfl,
      faithful_entityId?.fieldOr_eq hEntity rfl,
      faithful_string.fieldOr_eq trivial rfl,
      faithful_string.fieldOr_eq trivial rfl,
      faithful_string.field?_eq trivial rfl]
    rfl
  proper := by
    intro value row hRead
    unfold decode at hRead
    split at hRead
    · simp only [bind_eq_ok_iff, need_eq_ok_iff] at hRead
      rcases hRead with
        ⟨fee, -, stamp, hStamp, entity, -, name, -, result, -, id, -,
          moment, hMoment, id', -, hRow⟩
      cases hRow
      rw [hMoment] at hStamp
      exact faithful_timestamp.proper_of_field? hStamp
    · have hRun := run_of_wholeArray hRead
      simp only [run_bind_eq_ok_iff] at hRun
      rcases hRun with
        ⟨stamp, _, hStamp, id, _, -, name, _, -, result, _, -,
          fee, _, -, entity, _, -, hRow⟩
      cases hRow
      exact faithful_timestamp.proper_of_item hStamp
    · cases hRead

/- A balance or none is read as it was written. -/
theorem Balance.faithful? :
    Faithful (nullable decode)
      (fun o => (o.map encode).getD .null)
      fun o => ∀ b ∈ o, ∀ t ∈ b.stamps, t.nanos.toNat < 10 ^ 9 :=
  Balance.faithful.nullable fun _ hNull => by cases hNull

/- Accounts are read as they were written. -/
theorem Account.faithful :
    Faithful decode encode
      fun row => ∀ t ∈ row.stamps, t.nanos.toNat < 10 ^ 9 where
  writes := by
    intro row hStamps
    have hBalance :
        ∀ b ∈ row.balance, ∀ t ∈ b.stamps,
          t.nanos.toNat < 10 ^ 9 := by
      intro b hb t ht
      refine hStamps t (List.mem_append_left _ ?_)
      rw [Option.mem_def.mp hb]
      exact ht
    have hCreated :
        ∀ t ∈ row.createdTimestamp, t.nanos.toNat < 10 ^ 9 :=
      fun t ht =>
        hStamps t (List.mem_append_right _ (Option.mem_toList.mpr ht))
    unfold encode decode
    dsimp only
    rw [faithful_entityId.field?_eq trivial rfl,
      Balance.faithful?.fieldOr_eq hBalance rfl,
      faithful_timestamp?.fieldOr_eq hCreated rfl,
      faithful_string.fieldOr_eq trivial rfl]
    rfl
  proper := by
    intro value row hRead
    have hNoBalance :
        ∀ b ∈ (none : Option Balance), ∀ t ∈ b.stamps,
          t.nanos.toNat < 10 ^ 9 :=
      fun b hb => nomatch hb
    have hNoStamp :
        ∀ t ∈ (none : Option Timestamp), t.nanos.toNat < 10 ^ 9 :=
      fun t ht => nomatch ht
    have hAll :
        (∀ b ∈ row.balance, ∀ t ∈ b.stamps,
            t.nanos.toNat < 10 ^ 9) ∧
          ∀ t ∈ row.createdTimestamp, t.nanos.toNat < 10 ^ 9 := by
      unfold decode at hRead
      split at hRead
      · simp only [bind_eq_ok_iff] at hRead
        rcases hRead with
          ⟨id, -, balance, hBalance, created, hCreated, memo, -,
            id', -, hRow⟩
        cases hRow
        exact
          ⟨Balance.faithful?.proper_of_fieldOr hNoBalance hBalance,
            faithful_timestamp?.proper_of_fieldOr hNoStamp
              hCreated⟩
      · have hRun := run_of_wholeArray hRead
        simp only [run_bind_eq_ok_iff] at hRun
        rcases hRun with
          ⟨id, _, -, balance, _, hBalance, memo, _, -, created, _,
            hCreated, hRow⟩
        cases hRow
        exact
          ⟨Balance.faithful?.proper_of_itemOr hNoBalance hBalance,
            faithful_timestamp?.proper_of_itemOr hNoStamp hCreated⟩
      · cases hRead
    intro t ht
    rcases List.mem_append.mp ht with hIn | hIn
    · cases hBalance : row.balance with
      | none =>
          rw [hBalance] at hIn
          cases hIn
      | some b =>
          rw [hBalance] at hIn
          exact hAll.1 b hBalance t hIn
    · exact hAll.2 t (Option.mem_toList.mp hIn)

/- Tokens are read as they were written. -/
theorem Token.faithful :
    Faithful decode encode fun _ => True where
  writes := by
    intro row _
    unfold encode decode
    dsimp only
    rw [faithful_string.fieldOr_eq trivial rfl,
      faithful_string.fieldOr_eq trivial rfl,
      faithful_entityId.field?_eq trivial rfl,
      faithful_string.fieldOr_eq trivial rfl]
    rfl
  proper := fun _ _ _ => trivial

/- Holders are read as they were written. -/
theorem Holder.faithful :
    Faithful decode encode fun _ => True where
  writes := by
    intro row _
    unfold encode decode
    dsimp only
    rw [faithful_entityId.field?_eq trivial rfl,
      faithful_uint64.fieldOr_eq trivial rfl,
      faithful_uint32.fieldOr_eq trivial rfl]
    rfl
  proper := fun _ _ _ => trivial

------------------------------------------------------------
-- Rows
------------------------------------------------------------

namespace Row

/- The list to which a row belongs. -/
def kind : Row → TableKind
  | transaction _ => .transactions
  | account _ => .accounts
  | token _ => .tokens
  | holder _ => .holders

/- The moments of a row. -/
def stamps : Row → List Timestamp
  | transaction row => [row.consensusTimestamp]
  | account row => row.stamps
  | token _ => []
  | holder _ => []

/- A row whose moments are proper is read as it was written. -/
theorem decode_encode
    {row : Row}
    (hStamps : ∀ t ∈ row.stamps, t.nanos.toNat < 10 ^ 9) :
    Row.decode row.kind row.encode = .ok row := by
  unfold Row.decode Row.encode kind
  cases row with
  | transaction row =>
      have hStamp := hStamps _ (List.mem_singleton.mpr rfl)
      dsimp only
      rw [Transaction.faithful.writes row hStamp]
      rfl
  | account row =>
      dsimp only
      rw [Account.faithful.writes row hStamps]
      rfl
  | token row =>
      dsimp only
      rw [Token.faithful.writes row trivial]
      rfl
  | holder row =>
      dsimp only
      rw [Holder.faithful.writes row trivial]
      rfl

/- Whatever is read for a list is a proper row of that list. -/
theorem proper_of_decode
    {kind : TableKind}
    {value : Json}
    {row : Row}
    (hRead : Row.decode kind value = .ok row) :
    row.kind = kind ∧
      ∀ t ∈ row.stamps, t.nanos.toNat < 10 ^ 9 := by
  have hNone : ∀ t ∈ ([] : List Timestamp),
      t.nanos.toNat < 10 ^ 9 :=
    fun t ht => nomatch ht
  cases kind with
  | transactions =>
      rcases map_eq_ok_iff.mp hRead with ⟨row', hRow, hSame⟩
      cases hSame
      refine ⟨rfl, fun t ht => ?_⟩
      rw [List.mem_singleton.mp ht]
      exact Transaction.faithful.proper value row' hRow
  | accounts =>
      rcases map_eq_ok_iff.mp hRead with ⟨row', hRow, hSame⟩
      cases hSame
      exact ⟨rfl, Account.faithful.proper value row' hRow⟩
  | tokens =>
      rcases map_eq_ok_iff.mp hRead with ⟨row', hRow, hSame⟩
      cases hSame
      exact ⟨rfl, hNone⟩
  | holders =>
      rcases map_eq_ok_iff.mp hRead with ⟨row', hRow, hSame⟩
      cases hSame
      exact ⟨rfl, hNone⟩

/-
  A row whose moments lie within their seconds is read as it was
  written.  Whatever JSON value was read for a list, be it an
  object or an array, is a row of that list, and what is written
  of it is read as the same row, so with the same key and cells.
-/
theorem reads_as_encoded :
    (∀ row : Row,
      (∀ t ∈ row.stamps, t.nanos.toNat < 10 ^ 9) →
        Row.decode row.kind row.encode = .ok row) ∧
      ∀ (kind : TableKind) (value : Json) (row : Row),
        Row.decode kind value = .ok row →
          row.kind = kind ∧
            Row.decode kind row.encode = .ok row := by
  refine ⟨fun row => decode_encode, ?_⟩
  intro kind value row hRead
  rcases proper_of_decode hRead with ⟨hKind, hStamps⟩
  refine ⟨hKind, ?_⟩
  rw [← hKind]
  exact decode_encode hStamps

/- An account with a balance in an array and an unknown field. -/
def looseAccount : Json :=
  .object
    [ ("balance", .array [.integer 5, .string "17. "])
    , ("extra", .bool true)
    , ("account", .string "+98") ]

/- It is read, and read again as it was written. -/
theorem reads_as_encoded_loose :
    let row : Row :=
      .account ⟨⟨0, 0, 98⟩, some ⟨5, some ⟨17, 0⟩⟩, "", none⟩
    Row.decode .accounts looseAccount = .ok row ∧
      Row.decode .accounts row.encode = .ok row ∧
      Row.decode row.kind row.encode = .ok row := by
  intro row
  have hRead : Row.decode .accounts looseAccount = .ok row := by
    decide +kernel
  have hStamps : ∀ t ∈ row.stamps, t.nanos.toNat < 10 ^ 9 := by
    decide +kernel
  exact
    ⟨hRead, (reads_as_encoded.2 _ _ _ hRead).2,
      reads_as_encoded.1 row hStamps⟩

end Row

end LedgerView
