import Matcher.Foundation.HashChain
import Matcher.Matching.Types

/-!
# Hash chain of the audit log

The hash of a record covers the hash of the record before it and the canonical
JSON of the record.  A verified chain that starts at the first record is
determined by its last hash, up to the whitespace in the changes and the zone of
the timestamps, which the canonical JSON does not keep.  The digest and the JSON
encoder of the standard library are parameters.
-/

namespace Matcher.Governance

open Foundation
open Matching (Instant)

def hashVersion : ℤ := 1

def hashSize : ℕ := 32

def genesisHash : Bytes := List.replicate hashSize 0

def errInvalidHashSize : GoError :=
  .sentinel ⟨"ErrInvalidHashSize", "hash must be exactly 32 bytes"⟩

def errInvalidRecordHash : GoError :=
  .sentinel ⟨"ErrInvalidRecordHash", "record hash does not match computed hash"⟩

def errChainBroken : GoError :=
  .sentinel ⟨"ErrChainBroken", "hash chain is broken"⟩

def errSequenceOutOfOrder : GoError :=
  .sentinel ⟨"ErrSequenceOutOfOrder", "sequence numbers are out of order"⟩

/-! ## Records -/

structure Zone where
  name : String
  offset : ℤ
deriving DecidableEq, Repr

def Zone.utc : Zone := ⟨"UTC", 0⟩

structure Timestamp where
  instant : Instant
  zone : Zone
deriving DecidableEq, Repr

def Timestamp.utc (time : Timestamp) : Timestamp := ⟨time.instant, .utc⟩

structure RecordData where
  id : UUID
  tenantID : UUID
  tenantSeq : ℤ
  entityType : String
  entityID : UUID
  action : String
  actorID : Option String
  changes : Bytes
  createdAt : Timestamp
  hashVersion : ℤ
deriving DecidableEq, Repr

def RecordData.normalized (record : RecordData) : RecordData :=
  { record with createdAt := record.createdAt.utc }

/-- The digest and the encoder that the package is built with. -/
structure Hashing where
  sum : Bytes → Bytes
  length_sum : ∀ input, (sum input).length = hashSize
  marshal : RecordData → Except GoError Bytes

structure ChainRecord where
  tenantSeq : ℤ
  prevHash : Bytes
  recordHash : Bytes
  hashVersion : ℤ
  data : RecordData
deriving DecidableEq, Repr

variable {record : ChainRecord} {records : List ChainRecord} {start : ℤ} {prevHash : Bytes}

section

variable (hashing : Hashing)

def computeRecordHash (prevHash : Bytes) (record : RecordData) : Except GoError Bytes :=
  if prevHash.length ≠ hashSize then
    .error (.wrap "%w: got %d bytes" [toString prevHash.length] errInvalidHashSize)
  else do
    let canonical ← wrapError "failed to canonicalize record: %w"
      (hashing.marshal record.normalized)
    return hashing.sum (prevHash ++ canonical)

def verifyRecordHash (storedHash prevHash : Bytes) (record : RecordData) : Except GoError Unit := do
  let computed ← computeRecordHash hashing prevHash record
  if storedHash.length ≠ hashSize then
    .error (.wrap "%w: stored hash has %d bytes" [toString storedHash.length] errInvalidHashSize)
  else if computed ≠ storedHash then .error errInvalidRecordHash
  else .ok ()

/-- The two checks of the loop that concern the hashes of one record. -/
def verifyLink (expectedPrevHash : Bytes) (record : ChainRecord) : Except GoError Unit :=
  if expectedPrevHash ≠ record.prevHash then
    .error (.wrap "%w at seq %d: prev_hash mismatch" [toString record.tenantSeq] errChainBroken)
  else
    (verifyRecordHash hashing record.recordHash record.prevHash record.data).mapError
      (GoError.wrapTwo "%w at seq %d: %w" [toString record.tenantSeq] errChainBroken)

/-- The loop from the second record on. -/
def verifyRest (previous : ChainRecord) : List ChainRecord → Except GoError Unit
  | [] => .ok ()
  | record :: rest =>
    if record.tenantSeq ≠ previous.tenantSeq + 1 then
      .error (.wrap "%w: expected seq %d, got %d"
        [toString (previous.tenantSeq + 1), toString record.tenantSeq]
        errSequenceOutOfOrder)
    else do
      verifyLink hashing previous.recordHash record
      verifyRest record rest

/-- A chain that does not start at the first record is trusted at its start. -/
def verifyChain : List ChainRecord → Except GoError Unit
  | [] => .ok ()
  | record :: rest => do
      verifyLink hashing (if record.tenantSeq = 1 then genesisHash else record.prevHash) record
      verifyRest hashing record rest

/-! ## What is accepted -/

/-- The record hash is that of the previous hash and the data. -/
def ChainRecord.Sealed (record : ChainRecord) : Prop :=
  computeRecordHash hashing record.prevHash record.data = .ok record.recordHash

def Consecutive : ℤ → List ChainRecord → Prop
  | _, [] => True
  | expected, record :: rest => record.tenantSeq = expected ∧ Consecutive (expected + 1) rest

variable {hashing}

theorem computeRecordHash_eq_ok {recordHash : Bytes} {record : RecordData}
    (h : computeRecordHash hashing prevHash record = .ok recordHash) :
    prevHash.length = hashSize ∧
      ∃ canonical, hashing.marshal record.normalized = .ok canonical ∧
        recordHash = hashing.sum (prevHash ++ canonical) := by
  unfold computeRecordHash at h
  split_ifs at h with hlength
  obtain ⟨canonical, hmarshal, h⟩ := bind_eq_ok.mp h
  exact ⟨not_not.mp hlength, canonical, wrapError_eq_ok.mp hmarshal, (Except.ok.inj h).symm⟩

theorem verifyRecordHash_eq_ok {storedHash : Bytes} {record : RecordData} :
    verifyRecordHash hashing storedHash prevHash record = .ok () ↔
      computeRecordHash hashing prevHash record = .ok storedHash := by
  unfold verifyRecordHash
  constructor
  · intro h
    obtain ⟨computed, hcomputed, h⟩ := bind_eq_ok.mp h
    split_ifs at h with hlength hequal
    rw [hcomputed, not_not.mp hequal]
  · intro h
    obtain ⟨-, canonical, -, hhash⟩ := computeRecordHash_eq_ok h
    have hlength : storedHash.length = hashSize := by
      rw [hhash]
      exact hashing.length_sum _
    rw [h]
    simp [bind, Except.bind, hlength]

theorem verifyLink_eq_ok {expectedPrevHash : Bytes} :
    verifyLink hashing expectedPrevHash record = .ok () ↔
      record.prevHash = expectedPrevHash ∧ record.Sealed hashing := by
  unfold verifyLink
  split
  case isTrue hne => exact iff_of_false nofun fun h => hne h.1.symm
  case isFalse hequal =>
    rw [mapError_eq_ok, verifyRecordHash_eq_ok]
    exact (and_iff_right (not_not.mp hequal).symm).symm

theorem verifyRest_eq_ok {previous : ChainRecord} :
    verifyRest hashing previous records = .ok () ↔
      Consecutive (previous.tenantSeq + 1) records ∧
        Chained ChainRecord.prevHash ChainRecord.recordHash
          (ChainRecord.Sealed hashing) previous.recordHash records := by
  induction records generalizing previous with
  | nil => exact iff_of_true rfl ⟨trivial, trivial⟩
  | cons _ _ ih =>
    unfold verifyRest
    split
    case isTrue hne => exact iff_of_false nofun fun h => hne h.1.1
    case isFalse hseq =>
      have hseq := not_not.mp hseq
      rw [check_eq_ok, verifyLink_eq_ok, ih, hseq]
      simp only [Consecutive, Chained, hseq, true_and]
      tauto

theorem verifyChain_eq_ok (hstart : ∀ record ∈ records.head?, record.tenantSeq = 1) :
    verifyChain hashing records = .ok () ↔
      Consecutive 1 records ∧
        Chained ChainRecord.prevHash ChainRecord.recordHash
          (ChainRecord.Sealed hashing) genesisHash records := by
  cases records with
  | nil => exact iff_of_true rfl ⟨trivial, trivial⟩
  | cons record =>
    have hseq : record.tenantSeq = 1 := hstart record rfl
    rw [verifyChain, if_pos hseq, check_eq_ok, verifyLink_eq_ok, verifyRest_eq_ok, hseq]
    simp only [Consecutive, Chained, hseq, true_and]
    tauto

end

/-! ## Numbers -/

theorem consecutive_append_singleton :
    Consecutive start (records ++ [record]) ↔
      Consecutive start records ∧ record.tenantSeq = start + records.length := by
  induction records generalizing start with
  | nil => simp [Consecutive]
  | cons _ _ ih =>
    simp only [List.cons_append, Consecutive, ih, and_assoc,
      List.length_cons, Nat.cast_add, Nat.cast_one]
    rw [add_assoc, add_comm (1 : ℤ)]

theorem Consecutive.tenantSeq_eq (h : Consecutive start records) :
    records.map ChainRecord.tenantSeq =
      (List.range records.length).map fun position : ℕ =>
        start + position := by
  induction records using List.reverseRecOn with
  | nil => rfl
  | append_singleton _ _ ih =>
    obtain ⟨h, hseq⟩ := consecutive_append_singleton.mp h
    simp [List.range_succ, ih h, hseq]

theorem Consecutive.eq_last (h : Consecutive start records) (hrecord : record ∈ records)
    (hseq : record.tenantSeq + 1 = start + records.length) : records.getLast? = some record := by
  induction records generalizing start with
  | nil => exact absurd hrecord List.not_mem_nil
  | cons _ rest ih =>
    rw [List.length_cons] at hseq
    cases rest with
    | nil =>
      rw [List.mem_singleton.mp hrecord]
      rfl
    | cons =>
      rw [List.getLast?_cons_cons]
      rcases List.mem_cons.mp hrecord with rfl | hrest
      · have hstart := h.1
        simp only [List.length_cons] at hseq
        omega
      · apply ih h.2 hrest
        push_cast at hseq ⊢
        omega

/-! ## Two chains with the same last hash -/

def isJSONSpace (byte : UInt8) : Bool :=
  byte = 32 || byte = 9 || byte = 13 || byte = 10

/-- A JSON text without the whitespace outside its string literals. -/
def compactFrom : Bool → Bytes → Bytes
  | _, [] => []
  | true, 92 :: escaped :: rest => 92 :: escaped :: compactFrom true rest
  | true, byte :: rest => byte :: compactFrom (byte ≠ 34) rest
  | false, byte :: rest =>
    if isJSONSpace byte then compactFrom false rest
    else byte :: compactFrom (byte = 34) rest

def compact (text : Bytes) : Bytes := compactFrom false text

def RecordData.compacted (record : RecordData) : RecordData :=
  { record with changes := compact record.changes }

namespace Hashing

variable (hashing : Hashing)

def canonicalJSON (record : ChainRecord) : Option Bytes :=
  (hashing.marshal record.data.normalized).toOption

def inputs (records : List ChainRecord) : List Bytes :=
  records.filterMap fun record =>
    (hashing.canonicalJSON record).map (record.prevHash ++ ·)

def CollisionFree (first second : List ChainRecord) : Prop :=
  ∀ input ∈ hashing.inputs first, ∀ other ∈ hashing.inputs second,
    hashing.sum input = hashing.sum other → input = other

/-- Equal encodings come from records that differ in whitespace only. -/
def InjectiveUpToWhitespace (first second : List ChainRecord) : Prop :=
  ∀ record ∈ first, ∀ other ∈ second, (hashing.canonicalJSON record).isSome →
    hashing.canonicalJSON record = hashing.canonicalJSON other →
    record.data.normalized.compacted = other.data.normalized.compacted

instance (first second : List ChainRecord) : Decidable (hashing.CollisionFree first second) := by
  unfold CollisionFree
  infer_instance

instance (first second : List ChainRecord) :
    Decidable (hashing.InjectiveUpToWhitespace first second) := by
  unfold InjectiveUpToWhitespace
  infer_instance

end Hashing

section

variable {hashing : Hashing} {second first : List ChainRecord}

theorem ChainRecord.Sealed.input (hsealed : record.Sealed hashing) :
    record.prevHash.length = hashSize ∧
      ∃ canonical, hashing.canonicalJSON record = some canonical ∧
        record.recordHash = hashing.sum (record.prevHash ++ canonical) := by
  obtain ⟨hlength, canonical, hmarshal, hhash⟩ := computeRecordHash_eq_ok hsealed
  refine ⟨hlength, canonical, ?_, hhash⟩
  rw [Hashing.canonicalJSON, hmarshal]
  rfl

theorem Hashing.mem_inputs {canonical : Bytes} (hrecord : record ∈ records)
    (hcanonical : hashing.canonicalJSON record = some canonical) :
    record.prevHash ++ canonical ∈ hashing.inputs records :=
  List.mem_filterMap.mpr ⟨record, hrecord, by rw [hcanonical]; rfl⟩

/-- The previous hash has a fixed length, so the hashed bytes split uniquely. -/
theorem sealed_commits (hdigest : hashing.CollisionFree first second)
    (hencoder : hashing.InjectiveUpToWhitespace first second) {other : ChainRecord}
    (hrecord : record ∈ first) (hother : other ∈ second) (hsealed : record.Sealed hashing)
    (hsealed' : other.Sealed hashing) (hhash : record.recordHash = other.recordHash) :
    record.prevHash = other.prevHash ∧
      record.data.normalized.compacted = other.data.normalized.compacted := by
  obtain ⟨hlength, canonical, hcanonical, hsum⟩ := hsealed.input
  obtain ⟨hlength', canonical', hcanonical', hsum'⟩ := hsealed'.input
  have hinput : record.prevHash ++ canonical = other.prevHash ++ canonical' := by
    apply hdigest _ (Hashing.mem_inputs hrecord hcanonical) _
      (Hashing.mem_inputs hother hcanonical')
    rw [← hsum, ← hsum', hhash]
  obtain ⟨hprev, hequal⟩ := List.append_inj hinput (hlength.trans hlength'.symm)
  refine ⟨hprev, hencoder record hrecord other hother ?_ ?_⟩
  · rw [hcanonical]
    rfl
  · rw [hcanonical, hcanonical', hequal]

theorem Consecutive.tenantSeq_agree {same : ChainRecord → ChainRecord → Prop}
    (hfirst : Consecutive start first)
    (hsecond : Consecutive start second) (hsame : List.Forall₂ same first second) :
    List.Forall₂ (fun record other =>
      same record other ∧ record.tenantSeq = other.tenantSeq)
      first second := by
  induction hsame generalizing start with
  | nil => exact .nil
  | cons hhead _ ih => exact .cons ⟨hhead, hfirst.1.trans hsecond.1.symm⟩ (ih hfirst.2 hsecond.2)

/-- The last hash pins the chain down to what the canonical JSON keeps. -/
theorem last_hash_determines_chain {first second : List ChainRecord}
    (hdigest : hashing.CollisionFree first second)
    (hencoder : hashing.InjectiveUpToWhitespace first second)
    (hlength : first.length = second.length) (hfirst : verifyChain hashing first = .ok ())
    (hsecond : verifyChain hashing second = .ok ())
    (hstart : ∀ record ∈ first.head?, record.tenantSeq = 1)
    (hstart' : ∀ record ∈ second.head?, record.tenantSeq = 1)
    (hlast : first.getLast?.map ChainRecord.recordHash =
      second.getLast?.map ChainRecord.recordHash) :
    List.Forall₂ (fun record other =>
      record.data.normalized.compacted = other.data.normalized.compacted ∧
        record.prevHash = other.prevHash ∧
        record.recordHash = other.recordHash ∧
        record.tenantSeq = other.tenantSeq) first second := by
  obtain ⟨hseq, hchain⟩ := (verifyChain_eq_ok hstart).mp hfirst
  obtain ⟨hseq', hchain'⟩ := (verifyChain_eq_ok hstart').mp hsecond
  have hagree := hchain.agree hchain'
    (fun record hrecord other hother =>
      sealed_commits hdigest hencoder hrecord hother)
    hlength (by rw [lastHash, lastHash, hlast])
  apply (hseq.tenantSeq_agree hseq' hagree).imp
  rintro record other ⟨⟨hhash, hprev, hdata⟩, htenantSeq⟩
  exact ⟨hdata, hprev, hhash, htenantSeq⟩

end

/-- A digest and an encoder that can be evaluated: the digest keeps the last
bytes, the encoder the sequence number and the changes. -/
def sampleHashing : Hashing where
  sum input := (genesisHash ++ input).drop input.length
  length_sum input := by simp [genesisHash]
  marshal record :=
    .ok (UInt8.ofNat record.tenantSeq.toNat :: compact record.changes)

def sampleData (tenantSeq : ℤ) (changes : Bytes) (zone : Zone) : RecordData where
  id := ⟨BitVec.ofNat 128 tenantSeq.toNat⟩
  tenantID := ⟨7⟩
  tenantSeq := tenantSeq
  entityType := "match_group"
  entityID := ⟨8⟩
  action := "CREATE"
  actorID := none
  changes := changes
  createdAt := ⟨0, zone⟩
  hashVersion := hashVersion

def sampleChain (changes : Bytes) (zone : Zone) : List ChainRecord :=
  let first := sampleData 1 changes zone
  let firstHash := sampleHashing.sum (genesisHash ++ 1 :: compact changes)
  let second := sampleData 2 changes zone
  let secondHash := sampleHashing.sum (firstHash ++ 2 :: compact changes)
  [⟨1, genesisHash, firstHash, hashVersion, first⟩, ⟨2, firstHash, secondHash, hashVersion, second⟩]

def emptyObject : Bytes := [123, 125]

def spacedObject : Bytes := [123, 32, 125]

def localZone : Zone := ⟨"America/Sao_Paulo", -10800⟩

theorem last_hash_determines_chain_spaced :
    List.Forall₂ (fun record other =>
      record.data.normalized.compacted = other.data.normalized.compacted ∧
        record.prevHash = other.prevHash ∧
        record.recordHash = other.recordHash ∧
        record.tenantSeq = other.tenantSeq)
      (sampleChain emptyObject Zone.utc) (sampleChain spacedObject localZone) :=
  @last_hash_determines_chain sampleHashing _ _ (by decide +kernel)
    (by decide +kernel) rfl (by decide +kernel) (by decide +kernel)
    (by decide +kernel) (by decide +kernel) (by decide +kernel)

/-- Neither the zone of a timestamp nor the whitespace in the changes is hashed,
so the last hash does not determine them. -/
theorem last_hash_ignores_zone_and_whitespace :
    let chain := sampleChain emptyObject Zone.utc
    let others := [sampleChain emptyObject localZone, sampleChain spacedObject Zone.utc]
    verifyChain sampleHashing chain = .ok () ∧
      (∀ record ∈ chain.head?, record.tenantSeq = 1) ∧
      ∀ other ∈ others,
        sampleHashing.CollisionFree chain other ∧
          sampleHashing.InjectiveUpToWhitespace chain other ∧
          chain.length = other.length ∧
          verifyChain sampleHashing other = .ok () ∧
          (∀ record ∈ other.head?, record.tenantSeq = 1) ∧
          chain.getLast?.map ChainRecord.recordHash = other.getLast?.map ChainRecord.recordHash ∧
          chain.map ChainRecord.data ≠ other.map ChainRecord.data := by
  decide +kernel

end Matcher.Governance
