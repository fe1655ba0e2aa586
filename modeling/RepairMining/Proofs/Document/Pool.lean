import RepairMining.Document.Pool
import RepairMining.Proofs.Digest.Hex
import RepairMining.Proofs.Document.Action
import RepairMining.Proofs.Pool.Basic

namespace RepairMining

namespace Document

open Json

theorem digest_restores (digest : Digest) : Restores Document.digest digestValue 0 digest := by
  intro supply _
  rw [digestValue, Value.toReading, Document.digest, Decode.string, Decode.text]
  simp only [Digest.ofHex_toHex]

theorem digest_eq_ok {supply : Supply} {reading : Reading} {digest : Digest} :
    Document.digest supply reading = .ok digest ↔
      ∃ text, reading = .text (.ok text) ∧ text.toLower = digest.toHex := by
  simp only [← Digest.ofHex_eq_ok]
  cases reading with
  | text content =>
    cases content with
    | error fault => simp [Document.digest, Decode.string, Decode.text]
    | ok text =>
      simp only [Document.digest, Decode.string, Decode.text]
      cases read : Digest.ofHex text <;> simp [read]
  | _ => simp [Document.digest, Decode.string, Decode.text]

theorem digests_eq_ok {supply : Supply} {items : List Reading} {digests : List Digest} :
    List.Forall₂ (fun item digest => Document.digest supply item = .ok digest) items digests ↔
      ∃ texts : List String, items = texts.map (fun text => .text (.ok text)) ∧
        texts.map String.toLower = digests.map Digest.toHex := by
  induction digests generalizing items with
  | nil => simp
  | cons digest digests ih =>
    constructor
    · rintro (_ | ⟨first, related⟩)
      obtain ⟨text, rfl, lower⟩ := digest_eq_ok.mp first
      obtain ⟨texts, rfl, others⟩ := ih.mp related
      exact ⟨text :: texts, rfl, by rw [List.map_cons, List.map_cons, lower, others]⟩
    · rintro ⟨texts, rfl, lower⟩
      obtain ⟨text, others, rfl, first, lower⟩ := List.map_eq_cons_iff.mp lower
      exact .cons (digest_eq_ok.mpr ⟨text, rfl, first⟩) (ih.mpr ⟨others, rfl, lower⟩)

end Document

theorem Digest.exists_map_toHex {texts : List String} :
    (∃ digests : List Digest, texts.map String.toLower = digests.map toHex) ↔
      ∀ text ∈ texts, Written text := by
  simp only [← exists_ofHex_iff, ofHex_eq_ok]
  induction texts with
  | nil => simp
  | cons text texts ih =>
    rw [List.forall_mem_cons, ← ih]
    constructor
    · rintro ⟨digests, lower⟩
      obtain ⟨digest, others, rfl, first, rest⟩ := List.map_eq_cons_iff.mp lower.symm
      exact ⟨⟨digest, first.symm⟩, others, rest.symm⟩
    · rintro ⟨⟨digest, first⟩, digests, lower⟩
      exact ⟨digest :: digests, by rw [List.map_cons, List.map_cons, first, lower]⟩

theorem Digest.toHex_injective : Function.Injective toHex := by
  intro first second same
  have read := first.ofHex_toHex
  rw [same, second.ofHex_toHex] at read
  exact (Except.ok.inj read).symm

/-- The pool is what the texts stand for, in whatever order and case and however often. -/
def DonorPool.Lists (texts : List String) (pool : DonorPool) : Prop :=
  ∀ digest, digest ∈ pool.digests ↔ digest.toHex ∈ texts.map String.toLower

theorem DonorPool.lists_ofList {texts : List String} {digests : List Digest}
    (lower : texts.map String.toLower = digests.map Digest.toHex) :
    (ofList digests).Lists texts := by
  intro digest
  rw [lower, List.mem_map_of_injective Digest.toHex_injective, mem_ofList]

theorem DonorPool.exists_lists {texts : List String}
    (written : ∀ text ∈ texts, Digest.Written text) : ∃ pool : DonorPool, pool.Lists texts := by
  obtain ⟨digests, lower⟩ := Digest.exists_map_toHex.mpr written
  exact ⟨ofList digests, lists_ofList lower⟩

theorem DonorPool.Lists.unique {texts : List String} {pool other : DonorPool}
    (lists : pool.Lists texts) (alsoLists : other.Lists texts) : pool = other :=
  eq_of_mem_iff fun digest => (lists digest).trans (alsoLists digest).symm

namespace Document

open Json

theorem donorPool_eq_ok {supply inner : Supply} (entered : supply.enter = .ok inner)
    {reading : Reading} {pool : DonorPool} :
    donorPool supply reading = .ok pool ↔ ∃ texts : List String,
      reading = .array (texts.map fun text => .text (.ok text)) none ∧
      (∀ text ∈ texts, Digest.Written text) ∧ pool.Lists texts := by
  have accepted : donorPool supply reading = .ok pool ↔
      ∃ digests, Decode.list Document.digest supply reading = .ok digests ∧
        .ofList digests = pool := by
    rw [donorPool]
    cases Decode.list Document.digest supply reading <;> simp [Except.map]
  simp only [accepted, Decode.list_eq_ok entered, digests_eq_ok]
  constructor
  · rintro ⟨digests, ⟨items, rfl, texts, rfl, lower⟩, rfl⟩
    exact ⟨texts, rfl, Digest.exists_map_toHex.mp ⟨digests, lower⟩,
      DonorPool.lists_ofList lower⟩
  · rintro ⟨texts, rfl, written, lists⟩
    obtain ⟨digests, lower⟩ := Digest.exists_map_toHex.mpr written
    exact ⟨digests, ⟨_, rfl, texts, rfl, lower⟩, (DonorPool.lists_ofList lower).unique lists⟩

def listing (entries : List (PoolName × List String)) : Value :=
  .object (entries.map fun entry => (entry.1.name, .array (entry.2.map .text)))

theorem listing_fits (entries : List (PoolName × List String)) : (listing entries).Fits := by
  apply Value.membersFit_iff.mpr
  intro member present
  obtain ⟨entry, _, rfl⟩ := List.mem_map.mp present
  apply Value.itemsFit_iff.mpr
  intro item listed
  obtain ⟨text, _, rfl⟩ := List.mem_map.mp listed
  exact trivial

def member (entry : PoolName × List String) : Text × Reading :=
  (.ok entry.1.name, .array (entry.2.map fun text => .text (.ok text)) none)

theorem listing_toReading (entries : List (PoolName × List String)) :
    (listing entries).toReading = .object (entries.map member) none := by
  rw [listing, Value.toReading, Value.toMembers_eq_map, List.map_map]
  congr 1
  apply List.map_congr_left
  intro entry _
  rw [Function.comp_apply, Value.toReading, Value.toReadings_eq_map, List.map_map]
  rfl

end Document

/-- The pools are those that are listed. Where a name stands several times, the last time counts. -/
structure Pools.Documented (entries : List (PoolName × List String)) (pools : Pools) : Prop where
  written : ∀ entry ∈ entries, ∀ text ∈ entry.2, Digest.Written text
  held : ∀ name, Option.Rel DonorPool.Lists (entries.reverse.lookup name) (pools.get? name)

namespace Pools.Documented

variable {entries : List (PoolName × List String)} {pools other : Pools}

theorem unique (documented : pools.Documented entries) (again : other.Documented entries) :
    pools = other := by
  refine Table.ext fun name => ?_
  have first := documented.held name
  have second := again.held name
  revert first second
  generalize pools.get? name = pool, other.get? name = found, entries.reverse.lookup name = texts
  rintro (lists | _) (alsoLists | _)
  · rw [lists.unique alsoLists]
  · rfl

theorem of_pairs {pairs : List (PoolName × DonorPool)}
    (written : ∀ entry ∈ entries, ∀ text ∈ entry.2, Digest.Written text)
    (related : List.Forall₂ (fun entry pair => entry.1 = pair.1 ∧ pair.2.Lists entry.2) entries
      pairs) :
    Documented entries (pairs.foldl (fun table pair => table.insert pair.1 pair.2) .empty) where
  written := written
  held name := by
    have counting := Table.lookup_related (List.forall₂_reverse_iff.mpr related) name
    rwa [Table.get?_foldl_insert_last, show Table.get? .empty name = none from rfl, Option.or_none]

end Pools.Documented

def Pools.texts (pools : Pools) : List (PoolName × List String) :=
  pools.entries.map fun entry => (entry.1, entry.2.digests.map Digest.toHex)

theorem Pools.texts_increasing {pools : Pools} {entry : PoolName × List String}
    (listed : entry ∈ pools.texts) : entry.2.Pairwise (· < ·) := by
  obtain ⟨⟨name, pool⟩, _, rfl⟩ := List.mem_map.mp listed
  rw [List.pairwise_map]
  exact pool.increasing.imp Digest.toHex_lt_iff.mpr

theorem Pools.texts_written {pools : Pools} {entry : PoolName × List String}
    (listed : entry ∈ pools.texts) {text : String} (member : text ∈ entry.2) :
    ∃ digest : Digest, digest.toHex = text := by
  obtain ⟨⟨name, pool⟩, _, rfl⟩ := List.mem_map.mp listed
  obtain ⟨digest, _, written⟩ := List.mem_map.mp member
  exact ⟨digest, written⟩

theorem Pools.documented_texts (pools : Pools) : pools.Documented pools.texts := by
  have written : ∀ entry ∈ pools.texts, ∀ text ∈ entry.2, Digest.Written text := by
    intro entry listed text member
    obtain ⟨digest, rfl⟩ := texts_written listed member
    exact digest.written_toHex
  have lists (pool : DonorPool) : pool.Lists (pool.digests.map Digest.toHex) := by
    intro digest
    have lower : String.toLower ∘ Digest.toHex = Digest.toHex := funext Digest.toLower_toHex
    rw [List.map_map, lower, List.mem_map_of_injective Digest.toHex_injective]
  have related : List.Forall₂ (fun entry pair => entry.1 = pair.1 ∧ pair.2.Lists entry.2)
      pools.texts pools.entries :=
    List.forall₂_map_left_iff.mpr (List.forall₂_same.mpr fun pair _ => ⟨rfl, lists pair.2⟩)
  have documented := Documented.of_pairs written related
  rwa [Table.foldl_entries] at documented

namespace Document

open Json

theorem members_eq_ok {supply inner : Supply} (entered : supply.enter = .ok inner)
    {members : List (Text × Reading)} {pairs : List (PoolName × DonorPool)} :
    List.Forall₂ (fun member pair => member.1 = .ok (Vocabulary.name pair.1) ∧
        donorPool supply member.2 = .ok pair.2) members pairs ↔
      ∃ entries : List (PoolName × List String), members = entries.map member ∧
        (∀ entry ∈ entries, ∀ text ∈ entry.2, Digest.Written text) ∧
        List.Forall₂ (fun entry pair => entry.1 = pair.1 ∧ pair.2.Lists entry.2) entries pairs := by
  simp only [donorPool_eq_ok entered]
  induction pairs generalizing members with
  | nil => simp
  | cons pair pairs ih =>
    obtain ⟨name, pool⟩ := pair
    constructor
    · rintro (_ | @⟨⟨key, content⟩, _, _, _, ⟨rfl, texts, rfl, written, lists⟩, related⟩)
      obtain ⟨entries, rfl, others, rest⟩ := ih.mp related
      exact ⟨(name, texts) :: entries, rfl, List.forall_mem_cons.mpr ⟨written, others⟩,
        .cons ⟨rfl, lists⟩ rest⟩
    · rintro ⟨_, rfl, written, _ | @⟨⟨key, texts⟩, _, _, _, ⟨rfl, lists⟩, rest⟩⟩
      obtain ⟨first, others⟩ := List.forall_mem_cons.mp written
      exact .cons ⟨rfl, texts, rfl, first, lists⟩ (ih.mpr ⟨_, rfl, others, rest⟩)

theorem exists_pairs {entries : List (PoolName × List String)}
    (written : ∀ entry ∈ entries, ∀ text ∈ entry.2, Digest.Written text) :
    ∃ pairs : List (PoolName × DonorPool),
      List.Forall₂ (fun entry pair => entry.1 = pair.1 ∧ pair.2.Lists entry.2) entries pairs := by
  induction entries with
  | nil => exact ⟨[], .nil⟩
  | cons entry entries ih =>
    obtain ⟨first, others⟩ := List.forall_mem_cons.mp written
    obtain ⟨pool, lists⟩ := DonorPool.exists_lists first
    obtain ⟨pairs, related⟩ := ih others
    exact ⟨(entry.1, pool) :: pairs, .cons ⟨rfl, lists⟩ related⟩

theorem pools_eq_ok {supply : Supply} (room : supply.Holds 2) {reading : Reading} {pools : Pools} :
    Document.pools supply reading = .ok pools ↔
      ∃ entries, reading = (listing entries).toReading ∧ pools.Documented entries := by
  obtain ⟨inner, entered, holds⟩ := room.enter
  obtain ⟨innermost, deeper, _⟩ := holds.enter
  rw [Document.pools, Decode.table_eq_ok entered]
  simp only [members_eq_ok deeper, listing_toReading]
  constructor
  · rintro ⟨_, rfl, pairs, ⟨entries, rfl, written, related⟩, rfl⟩
    exact ⟨entries, rfl, .of_pairs written related⟩
  · rintro ⟨entries, rfl, documented⟩
    obtain ⟨pairs, related⟩ := exists_pairs documented.written
    have kept := Pools.Documented.of_pairs documented.written related
    exact ⟨_, rfl, pairs, ⟨entries, rfl, documented.written, related⟩, kept.unique documented⟩

theorem poolsValue_eq (pools : Pools) : poolsValue pools = listing pools.texts := by
  rw [poolsValue, tableValue, listing, Pools.texts, List.map_map]
  congr 1
  apply List.map_congr_left
  intro entry _
  rw [Function.comp_apply, donorPoolValue, List.map_map]
  rfl

end Document

end RepairMining
