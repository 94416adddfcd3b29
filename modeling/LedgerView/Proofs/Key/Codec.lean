import LedgerView.Key.EntityId
import LedgerView.Key.Timestamp
import LedgerView.Proofs.Reading
import LedgerView.Proofs.Text.Blank
import LedgerView.Proofs.Text.Decimal

/-
  Keys and their texts.

  Each kind of key has its spellings.  A text is read as a key
  if it is a spelling of the key between blanks, and as none
  otherwise.  What is written of a key is one of its spellings.
  Moments are ordered as the nanoseconds since the epoch.

  Key definitions include:
    * `TextCodec`
    * `TextCodec.Exact`
    * `Timestamp.Spells`
    * `EntityId.Spells`
    * `Timestamp.sinceEpoch`

  Key theorems include:
    * `TextCodec.exact_of_spells`
    * `Timestamp.exact`
    * `EntityId.exact`
    * `Timestamp.compare_eq`
    * `keys_exact_and_ordered`
-/

namespace LedgerView

------------------------------------------------------------
-- Codecs
------------------------------------------------------------

/- How keys are read and written, and the fault of a bad text. -/
structure TextCodec
    (κ : Type) where
  read : String → Except KeyError κ
  write : κ → String
  fault : String → KeyError

namespace TextCodec

variable {κ : Type}

/-
  Keys are read of their spellings between blanks, those that
  are proper are read as they were written, whatever was read is
  proper, and a fault holds the whole text.
-/
structure Exact
    (codec : TextCodec κ)
    (Spells : List Char → κ → Prop)
    (Proper : κ → Prop) : Prop where
  reads :
    ∀ text k,
      codec.read text = .ok k ↔
        ∃ s, Text.Between s text.toList ∧ Spells s k
  proper : ∀ text k, codec.read text = .ok k → Proper k
  writes : ∀ k, Proper k → codec.read (codec.write k) = .ok k
  again :
    ∀ text k,
      codec.read text = .ok k → codec.read (codec.write k) = .ok k
  faults :
    ∀ text e, codec.read text = .error e → e = codec.fault text

/- It is enough to know what is read of a trimmed text. -/
theorem exact_of_spells
    {codec : TextCodec κ}
    (readChars? : List Char → Option κ)
    {Spells : List Char → κ → Prop}
    {Proper : κ → Prop}
    (hParse :
      ∀ text,
        codec.read text =
          (readChars? (Text.trimChars text.toList)).elim
            (.error (codec.fault text)) .ok)
    (hRead : ∀ s k, readChars? s = some k ↔ Spells s k)
    (hBlank :
      ∀ s k, Spells s k → ∀ c ∈ s, Text.isBlank c = false)
    (hProper : ∀ s k, Spells s k → Proper k)
    (hWrite : ∀ k, Proper k → Spells (codec.write k).toList k) :
    codec.Exact Spells Proper := by
  have hOk :
      ∀ text k,
        codec.read text = .ok k ↔
          Spells (Text.trimChars text.toList) k := by
    intro text k
    rw [hParse, ← hRead]
    cases readChars? (Text.trimChars text.toList) with
    | none => simp
    | some k' => simp
  have hAll : ∀ text k, codec.read text = .ok k → Proper k :=
    fun text k hText => hProper _ k ((hOk text k).mp hText)
  have hWrites :
      ∀ k, Proper k → codec.read (codec.write k) = .ok k := by
    intro k hk
    have hSpells := hWrite k hk
    rw [hOk]
    unfold Text.trimChars
    rw [Text.trimWhile_eq_self (hBlank _ k hSpells)]
    exact hSpells
  refine
    { reads := fun text k => ?_
      proper := hAll
      writes := hWrites
      again := fun text k hText => hWrites k (hAll text k hText)
      faults := fun text e hError => ?_ }
  · rw [hOk]
    constructor
    · exact fun hSpells => ⟨_, Text.between_trimChars _, hSpells⟩
    · rintro ⟨s, hBetween, hSpells⟩
      rw [hBetween.trimChars_eq (hBlank s k hSpells)]
      exact hSpells
  · rw [hParse] at hError
    cases hText : readChars? (Text.trimChars text.toList) with
    | none =>
        rw [hText] at hError
        cases hError
        rfl
    | some k =>
        rw [hText] at hError
        cases hError

end TextCodec

------------------------------------------------------------
-- Timestamps
------------------------------------------------------------

namespace Timestamp

/-
  The spellings of a moment: the seconds alone, or a dot behind
  them and up to nine digits, which count as if zeros followed
  up to the ninth.  Seconds are words, so digits of a value that
  does not fit one spell no moment.
-/
inductive Spells : List Char → Timestamp → Prop where
  | whole
      {s : List Char}
      {seconds : UInt64}
      (hSeconds : Text.Digits s seconds.toNat) :
      Spells s ⟨seconds, 0⟩
  | fraction
      {s f : List Char}
      {seconds : UInt64}
      {nanos : UInt32}
      (hSeconds : Text.Digits s seconds.toNat)
      (hShort : f.length ≤ 9)
      (hNanos :
        Text.Digits (f ++ List.replicate (9 - f.length) '0')
          nanos.toNat) :
      Spells (s ++ '.' :: f) ⟨seconds, nanos⟩

/- The nanoseconds since the epoch. -/
def sinceEpoch
    (t : Timestamp) : Nat :=
  t.seconds.toNat * 10 ^ 9 + t.nanos.toNat

/- How timestamps are read and written. -/
def codec : TextCodec Timestamp where
  read := parse
  write := Timestamp.toString
  fault := .timestamp

@[simp]
theorem codec_read : codec.read = parse := rfl

@[simp]
theorem codec_write : codec.write = Timestamp.toString := rfl

/- Seconds are digits whose value fits a word. -/
theorem readSeconds?_eq_some_iff
    {s : List Char}
    {seconds : UInt64} :
    readSeconds? s = some seconds ↔
      Text.Digits s seconds.toNat := by
  unfold readSeconds?
  rw [Option.map_eq_some_iff]
  constructor
  · rintro ⟨n, hRead, hWord⟩
    rw [Option.filter_eq_some_iff, decide_eq_true_eq] at hRead
    rw [← hWord, UInt64.toNat_ofNat_of_lt' hRead.2]
    exact Text.digits?_eq_some_iff.mp hRead.1
  · intro hDigits
    refine ⟨seconds.toNat, ?_, UInt64.ofNat_toNat⟩
    rw [Option.filter_eq_some_iff, decide_eq_true_eq]
    exact
      ⟨Text.digits?_eq_some_iff.mpr hDigits, seconds.toNat_lt⟩

/- A fraction is up to nine digits, read as nine. -/
theorem readFraction?_eq_some_iff
    {f : List Char}
    {nanos : UInt32} :
    readFraction? f = some nanos ↔
      f.length ≤ 9 ∧
        Text.Digits (f ++ List.replicate (9 - f.length) '0')
          nanos.toNat := by
  unfold readFraction?
  split
  · next hShort =>
      rw [Option.map_eq_some_iff]
      constructor
      · rintro ⟨n, hRead, hWord⟩
        have hDigits := Text.digits?_eq_some_iff.mp hRead
        have hLess := hDigits.lt
        have hNine : (Text.padRight 9 f).length = 9 := by
          unfold Text.padRight
          rw [List.length_append, List.length_replicate]
          omega
        rw [hNine] at hLess
        have hWide : n < UInt32.size := Nat.lt_trans hLess (by decide)
        rw [← hWord, UInt32.toNat_ofNat_of_lt' hWide]
        exact ⟨hShort, hDigits⟩
      · rintro ⟨-, hDigits⟩
        exact
          ⟨nanos.toNat, Text.digits?_eq_some_iff.mpr hDigits,
            UInt32.ofNat_toNat⟩
  · next hLong =>
      constructor
      · intro hNone
        cases hNone
      · exact fun hShort => absurd hShort.1 hLong

/- A trimmed text is read if it is a spelling. -/
theorem readChars?_eq_some_iff
    {s : List Char}
    {t : Timestamp} :
    readChars? s = some t ↔ Spells s t := by
  constructor
  · intro hRead
    unfold readChars? at hRead
    dsimp only at hRead
    split at hRead
    · next seconds nanos hSeconds hNanos =>
        have hSplit := Text.append_splitFirst '.' s
        cases hRead
        rw [readSeconds?_eq_some_iff] at hSeconds
        rw [readFraction?_eq_some_iff] at hNanos
        cases hAfter : (Text.splitFirst (· == '.') s).2 with
        | none =>
            rw [hAfter, Option.map_none, Option.getD_none,
              List.append_nil] at hSplit
            rw [hAfter] at hNanos
            have hZero : nanos = 0 :=
              UInt32.toNat_inj.mp hNanos.2.value.symm
            rw [hSplit] at hSeconds
            rw [hZero]
            exact .whole hSeconds
        | some f =>
            rw [hAfter] at hSplit hNanos
            rw [← hSplit]
            exact .fraction hSeconds hNanos.1 hNanos.2
    · cases hRead
  · intro hSpells
    unfold readChars?
    cases hSpells with
    | whole hSeconds =>
        have hNone : readFraction? [] = some 0 := by decide
        rw [Text.splitFirst_eq_self hSeconds.ne_dot]
        dsimp only
        rw [readSeconds?_eq_some_iff.mpr hSeconds,
          Option.getD_none, hNone]
    | fraction hSeconds hShort hNanos =>
        rw [Text.splitFirst_append hSeconds.ne_dot rfl]
        dsimp only
        rw [readSeconds?_eq_some_iff.mpr hSeconds,
          Option.getD_some,
          readFraction?_eq_some_iff.mpr ⟨hShort, hNanos⟩]

namespace Spells

variable {s : List Char} {t : Timestamp}

/- No blank is part of a spelling. -/
theorem isBlank_eq_false
    (hSpells : Spells s t) :
    ∀ c ∈ s, Text.isBlank c = false := by
  cases hSpells with
  | whole hSeconds => exact hSeconds.isBlank_eq_false
  | fraction hSeconds hShort hNanos =>
      refine List.forall_mem_append.mpr
        ⟨hSeconds.isBlank_eq_false,
          List.forall_mem_cons.mpr ⟨by decide, ?_⟩⟩
      exact fun c hMem =>
        hNanos.isBlank_eq_false c (List.mem_append_left _ hMem)

/- What is spelled is less than a second past the whole ones. -/
theorem nanos_lt
    (hSpells : Spells s t) :
    t.nanos.toNat < 10 ^ 9 := by
  cases hSpells with
  | whole hSeconds => exact Nat.pow_pos (by decide)
  | fraction hSeconds hShort hNanos =>
      have hLess := hNanos.lt
      rw [List.length_append, List.length_replicate,
        Nat.add_sub_cancel' hShort] at hLess
      exact hLess

end Spells

/- What is written of a moment spells it. -/
theorem spells_toString
    {t : Timestamp}
    (hNanos : t.nanos.toNat < 10 ^ 9) :
    Spells t.toString.toList t := by
  let f := Text.padLeft 9 (Text.decimal t.nanos.toNat)
  have hNine : f.length = 9 :=
    Text.length_padLeft (by decide) hNanos
  have hDigits :
      Text.Digits (f ++ List.replicate (9 - f.length) '0')
        t.nanos.toNat := by
    rw [hNine, Nat.sub_self, List.replicate_zero, List.append_nil]
    exact Text.digits_padLeft 9 t.nanos.toNat
  unfold Timestamp.toString toChars
  rw [String.toList_ofList, List.append_assoc]
  exact .fraction (Text.digits_decimal _) hNine.le hDigits

/- Timestamps are read and written exactly. -/
theorem exact :
    codec.Exact Spells fun t => t.nanos.toNat < 10 ^ 9 := by
  refine TextCodec.exact_of_spells readChars?
    (fun text => ?_) (fun _ _ => readChars?_eq_some_iff)
    (fun _ _ hSpells => hSpells.isBlank_eq_false)
    (fun _ _ hSpells => hSpells.nanos_lt)
    (fun _ hNanos => spells_toString hNanos)
  unfold codec parse
  dsimp only
  cases readChars? (Text.trimChars text.toList) <;> rfl

/- Moments are ordered as the nanoseconds since the epoch. -/
theorem compare_eq
    {a b : Timestamp}
    (hA : a.nanos.toNat < 10 ^ 9)
    (hB : b.nanos.toNat < 10 ^ 9) :
    Ord.compare a b = Ord.compare a.sinceEpoch b.sinceEpoch := by
  have hSeconds :
      Ord.compare a.seconds b.seconds =
        Ord.compare a.seconds.toNat b.seconds.toNat := by
    simp only [Ord.compare, compareOfLessAndEq,
      UInt64.lt_iff_toNat_lt, UInt64.toNat_inj]
  have hNanos :
      Ord.compare a.nanos b.nanos =
        Ord.compare a.nanos.toNat b.nanos.toNat := by
    simp only [Ord.compare, compareOfLessAndEq,
      UInt32.lt_iff_toNat_lt, UInt32.toNat_inj]
  show (Ord.compare a.seconds b.seconds).then
    (Ord.compare a.nanos b.nanos) = _
  rw [hSeconds, hNanos]
  unfold sinceEpoch
  rcases Nat.lt_trichotomy a.seconds.toNat b.seconds.toNat with
    hLt | hEq | hGt
  · rw [Nat.compare_eq_lt.mpr hLt, Ordering.lt_then]
    exact (Nat.compare_eq_lt.mpr (by omega)).symm
  · rw [hEq, Nat.compare_eq_eq.mpr rfl, Ordering.eq_then]
    simp only [Ord.compare, compareOfLessAndEq,
      Nat.add_lt_add_iff_left, Nat.add_left_cancel_iff]
  · rw [Nat.compare_eq_gt.mpr hGt, Ordering.gt_then]
    exact (Nat.compare_eq_gt.mpr (by omega)).symm

end Timestamp

------------------------------------------------------------
-- Entity Ids
------------------------------------------------------------

namespace EntityId

/- A part of an id: digits, perhaps behind a plus sign. -/
inductive SpellsPart : List Char → UInt64 → Prop where
  | plain
      {s : List Char}
      {n : UInt64}
      (hDigits : Text.Digits s n.toNat) :
      SpellsPart s n
  | plus
      {s : List Char}
      {n : UInt64}
      (hDigits : Text.Digits s n.toNat) :
      SpellsPart ('+' :: s) n

/-
  The spellings of an id: the number alone if shard and realm
  are zero, or all three with dots between them.  Again no part
  is spelled by digits of a value that does not fit a word.
-/
inductive Spells : List Char → EntityId → Prop where
  | lone
      {s : List Char}
      {num : UInt64}
      (hNum : SpellsPart s num) :
      Spells s ⟨0, 0, num⟩
  | whole
      {s r n : List Char}
      {shard realm num : UInt64}
      (hShard : SpellsPart s shard)
      (hRealm : SpellsPart r realm)
      (hNum : SpellsPart n num) :
      Spells (s ++ '.' :: (r ++ '.' :: n)) ⟨shard, realm, num⟩

/- How entity ids are read and written. -/
def codec : TextCodec EntityId where
  read := parse
  write := EntityId.toString
  fault := .entityId

@[simp]
theorem codec_read : codec.read = parse := rfl

@[simp]
theorem codec_write : codec.write = EntityId.toString := rfl

/- A part is read of its spellings. -/
theorem readPart?_eq_some_iff
    {s : List Char}
    {n : UInt64} :
    readPart? s = some n ↔ SpellsPart s n := by
  unfold readPart?
  rw [Option.map_eq_some_iff]
  constructor
  · rintro ⟨m, hRead, hWord⟩
    rcases Text.natural?_eq_some_iff.mp hRead with
      ⟨hFits, hDigits | ⟨rest, hPlus, hDigits⟩⟩
    · rw [← UInt64.toNat_ofNat_of_lt' hFits, hWord] at hDigits
      exact .plain hDigits
    · rw [← UInt64.toNat_ofNat_of_lt' hFits, hWord] at hDigits
      rw [hPlus]
      exact .plus hDigits
  · intro hPart
    refine ⟨n.toNat, Text.natural?_eq_some_iff.mpr ?_,
      UInt64.ofNat_toNat⟩
    refine ⟨n.toNat_lt, ?_⟩
    cases hPart with
    | plain hDigits => exact .inl hDigits
    | plus hDigits => exact .inr ⟨_, rfl, hDigits⟩

namespace SpellsPart

variable {s : List Char} {n : UInt64}

/- There is no dot in a part. -/
theorem ne_dot
    (hPart : SpellsPart s n) :
    ∀ c ∈ s, (c == '.') = false := by
  cases hPart with
  | plain hDigits => exact hDigits.ne_dot
  | plus hDigits =>
      exact List.forall_mem_cons.mpr ⟨by decide, hDigits.ne_dot⟩

/- Nor is there a blank. -/
theorem isBlank_eq_false
    (hPart : SpellsPart s n) :
    ∀ c ∈ s, Text.isBlank c = false := by
  cases hPart with
  | plain hDigits => exact hDigits.isBlank_eq_false
  | plus hDigits =>
      exact List.forall_mem_cons.mpr
        ⟨by decide, hDigits.isBlank_eq_false⟩

end SpellsPart

/- A trimmed text is read if it is a spelling. -/
theorem readChars?_eq_some_iff
    {s : List Char}
    {e : EntityId} :
    readChars? s = some e ↔ Spells s e := by
  constructor
  · intro hRead
    have hJoin := Text.intercalate_splitAll '.' s
    unfold readChars? at hRead
    split at hRead
    · next num hParts =>
        rw [mapM_eq_some_iff, List.map_cons, List.map_nil,
          List.map_eq_singleton_iff] at hParts
        rcases hParts with ⟨n, hSplit, hNum⟩
        rw [hSplit, List.intercalate_singleton] at hJoin
        cases hRead
        rw [← hJoin]
        exact .lone (readPart?_eq_some_iff.mp hNum)
    · next shard realm num hParts =>
        simp only [mapM_eq_some_iff, List.map_cons, List.map_nil,
          List.map_eq_cons_iff, List.map_eq_nil_iff] at hParts
        rcases hParts with
          ⟨s', _, hSplit, hShard, r, _, rfl, hRealm, n, _, rfl,
            hNum, rfl⟩
        rw [hSplit, List.intercalate_cons_cons,
          List.intercalate_cons_cons, List.intercalate_singleton,
          List.append_assoc, List.append_assoc] at hJoin
        cases hRead
        rw [← hJoin]
        exact
          .whole (readPart?_eq_some_iff.mp hShard)
            (readPart?_eq_some_iff.mp hRealm)
            (readPart?_eq_some_iff.mp hNum)
    · cases hRead
  · intro hSpells
    unfold readChars?
    cases hSpells with
    | lone hNum =>
        rw [Text.splitAll_eq_self hNum.ne_dot]
        simp [readPart?_eq_some_iff.mpr hNum]
    | whole hShard hRealm hNum =>
        rw [Text.splitAll_append hShard.ne_dot rfl,
          Text.splitAll_append hRealm.ne_dot rfl,
          Text.splitAll_eq_self hNum.ne_dot]
        simp [readPart?_eq_some_iff.mpr hShard,
          readPart?_eq_some_iff.mpr hRealm,
          readPart?_eq_some_iff.mpr hNum]

/- No blank is part of a spelling. -/
theorem Spells.isBlank_eq_false
    {s : List Char}
    {e : EntityId}
    (hSpells : Spells s e) :
    ∀ c ∈ s, Text.isBlank c = false := by
  cases hSpells with
  | lone hNum => exact hNum.isBlank_eq_false
  | whole hShard hRealm hNum =>
      exact List.forall_mem_append.mpr
        ⟨hShard.isBlank_eq_false,
          List.forall_mem_cons.mpr
            ⟨by decide, List.forall_mem_append.mpr
              ⟨hRealm.isBlank_eq_false,
                List.forall_mem_cons.mpr
                  ⟨by decide, hNum.isBlank_eq_false⟩⟩⟩⟩

/- What is written of an id spells it. -/
theorem spells_toString
    (e : EntityId) :
    Spells e.toString.toList e := by
  unfold EntityId.toString toChars
  rw [String.toList_ofList, List.append_assoc, List.append_assoc,
    List.append_assoc]
  exact
    .whole (.plain (Text.digits_decimal _))
      (.plain (Text.digits_decimal _))
      (.plain (Text.digits_decimal _))

/- Entity ids are read and written exactly. -/
theorem exact :
    codec.Exact Spells fun _ => True := by
  refine TextCodec.exact_of_spells readChars?
    (fun text => ?_) (fun _ _ => readChars?_eq_some_iff)
    (fun _ _ hSpells => hSpells.isBlank_eq_false)
    (fun _ _ _ => trivial) (fun e _ => spells_toString e)
  unfold codec parse
  dsimp only
  cases readChars? (Text.trimChars text.toList) <;> rfl

/- An entity id is read as it was written. -/
theorem parse_toString
    (e : EntityId) :
    parse e.toString = .ok e := by
  have hRead := EntityId.exact.writes e trivial
  rw [codec_read, codec_write] at hRead
  exact hRead

end EntityId

------------------------------------------------------------
-- Both Kinds of Keys
------------------------------------------------------------

/-
  Keys are read exactly of their spellings between blanks, they
  are read as they were written, and moments compare as the
  nanoseconds since the epoch.
-/
theorem keys_exact_and_ordered :
    (Timestamp.codec.Exact Timestamp.Spells
        fun t => t.nanos.toNat < 10 ^ 9) ∧
      (EntityId.codec.Exact EntityId.Spells fun _ => True) ∧
      ∀ a b : Timestamp,
        a.nanos.toNat < 10 ^ 9 → b.nanos.toNat < 10 ^ 9 →
          Ord.compare a b =
            Ord.compare a.sinceEpoch b.sinceEpoch :=
  ⟨Timestamp.exact, EntityId.exact,
    fun _ _ => Timestamp.compare_eq⟩

/- Short spellings, and moments less than a second apart. -/
theorem keys_exact_and_ordered_short :
    Timestamp.codec.read " 100.9\n" = .ok ⟨100, 900000000⟩ ∧
      EntityId.codec.read "\t+98 " = .ok ⟨0, 0, 98⟩ ∧
      Ord.compare (⟨100, 900000000⟩ : Timestamp) ⟨101, 1⟩ = .lt := by
  rcases keys_exact_and_ordered with ⟨hTimes, hIds, hOrder⟩
  have hMoment :
      Timestamp.Spells ("100".toList ++ '.' :: ['9'])
        ⟨100, 900000000⟩ :=
    .fraction (Text.digits?_eq_some_iff.mp (by decide)) (by decide)
      (Text.digits?_eq_some_iff.mp (by decide))
  have hId : EntityId.Spells ('+' :: "98".toList) ⟨0, 0, 98⟩ :=
    .lone (.plus (Text.digits?_eq_some_iff.mp (by decide)))
  have hBlank : ∀ c ∈ [' '], Text.isBlank c = true :=
    List.forall_mem_singleton.mpr (by decide)
  have hLine : ∀ c ∈ ['\n'], Text.isBlank c = true :=
    List.forall_mem_singleton.mpr (by decide)
  have hTab : ∀ c ∈ ['\t'], Text.isBlank c = true :=
    List.forall_mem_singleton.mpr (by decide)
  refine ⟨?_, ?_, ?_⟩
  · exact (hTimes.reads _ _).mpr
      ⟨_, ⟨[' '], ['\n'], hBlank, hLine, by decide⟩, hMoment⟩
  · exact (hIds.reads _ _).mpr
      ⟨_, ⟨['\t'], [' '], hTab, hBlank, by decide⟩, hId⟩
  · rw [hOrder _ _ (by decide) (by decide)]
    decide

end LedgerView
