import RepairMining.Proofs.Pool.History

namespace RepairMining

open Json

/-- A member that no document of pools has: its key names no pool, or it lists a text that is no
digest. -/
def Document.Spoils (member : Text × Reading) : Prop :=
  (∃ key, member.1 = .ok key ∧ ∀ name : PoolName, name.name ≠ key) ∨
    ∃ items ending text, member.2 = .array items ending ∧ .text (.ok text) ∈ items ∧
      ¬ Digest.Written text

namespace PoolCache

variable {layout : CacheLayout} {id : DiffId} {variant : PoolVariant} {disk stored : Disk}
variable {pools : Pools} {bytes : ByteArray}

theorem store_disk (layout : CacheLayout) (id : DiffId) (variant : PoolVariant) (pools : Pools)
    (disk : Disk) :
    (store Disk.storage layout id variant pools).run disk =
      disk.replace (layout.poolsPlace id variant) (layout.poolsTemporary id variant)
        (encode pools) := by
  rw [store, Disk.replace_storage, CacheLayout.poolsPlace, CacheLayout.poolsTemporary]

theorem load_disk (held : disk.read (layout.poolsPlace id variant) = .ok (some bytes)) :
    (load Disk.storage layout id variant).run disk = ((decode bytes).map some, disk) := by
  rw [CacheLayout.poolsPlace] at held
  simp only [load, Disk.storage, bind, StateT.bind, StateT.run, held]
  rfl

theorem load_stored
    (done : (store Disk.storage layout id variant pools).run disk = (none, stored)) :
    stored.read (layout.poolsPlace id variant) = .ok (some (encode pools)) ∧
      (load Disk.storage layout id variant).run stored = (.ok (some pools), stored) := by
  rw [store_disk] at done
  have held := ((CacheFile.pools layout id variant).replace_again (congrArg Prod.fst done)).1
  have after := congrArg Prod.snd done
  rw [CacheLayout.poolsPlace, CacheLayout.poolsTemporary] at after
  rw [after] at held
  refine ⟨held, ?_⟩
  rw [load_disk held, decode_encode]
  rfl

theorem decode_corruption {fault : CacheError} (refused : decode bytes = .error fault) :
    fault.isCorruption = true := by
  rw [decode] at refused
  split at refused
  · obtain rfl := Except.error.inj refused
    rfl
  · cases refused

theorem decode_spoilt {text : String} {members : List (Text × Reading)} {ending : Option Break}
    {trailing : Bool} (read : scan text = (.object members ending, trailing))
    (spoilt : ∃ member ∈ members, Document.Spoils member) :
    ∃ fault, decode text.toUTF8 = .error fault := by
  cases decoded : decode text.toUTF8 with
  | error fault => exact ⟨fault, rfl⟩
  | ok pools =>
    obtain ⟨other, entries, same, listed, documented⟩ := decode_eq_ok.mp decoded
    obtain rfl : text = other := String.toByteArray_inj.mp same
    rw [read, Document.listing_toReading] at listed
    obtain ⟨rfl, _⟩ := Reading.object.inj (congrArg Prod.fst listed)
    obtain ⟨member, among, spoils⟩ := spoilt
    obtain ⟨entry, present, rfl⟩ := List.mem_map.mp among
    obtain ⟨key, named, unknown⟩ | ⟨items, _, text, array, inside, stray⟩ := spoils
    · exact absurd (Except.ok.inj named) (unknown entry.1)
    · obtain ⟨rfl, _⟩ := Reading.array.inj array
      obtain ⟨other, held, same⟩ := List.mem_map.mp inside
      obtain rfl := Except.ok.inj (Reading.text.inj same)
      exact absurd (documented.written entry present other held) stray

/-- What the cache writes for pools and which files it takes. -/
theorem documents_faithful (layout : CacheLayout) (id : DiffId) (variant : PoolVariant)
    (disk : Disk) :
    (∀ pools stored, (store Disk.storage layout id variant pools).run disk = (none, stored) →
      stored.read (layout.poolsPlace id variant) = .ok (some (encode pools)) ∧
      (load Disk.storage layout id variant).run stored = (.ok (some pools), stored)) ∧
    (∀ pools, encode pools = (Document.listing pools.texts).compact.toUTF8 ∧
      pools.Documented pools.texts ∧
      ∀ entry ∈ pools.texts, entry.2.Pairwise (· < ·) ∧
        ∀ text ∈ entry.2, Digest.Written text ∧ text.toLower = text) ∧
    (∀ first second : Digest, first.toHex < second.toHex ↔ first.bytes < second.bytes) ∧
    (∀ entries pools, pools.Documented entries →
      decode (Document.listing entries).compact.toUTF8 = .ok pools) ∧
    ∀ bytes,
      (∀ pools, decode bytes = .ok pools ↔ ∃ text entries, bytes = text.toUTF8 ∧
        scan text = ((Document.listing entries).toReading, false) ∧ pools.Documented entries) ∧
      (∀ fault, decode bytes = .error fault → fault.isCorruption = true) ∧
      (∀ pools, decode bytes = .ok pools →
        decode (encode pools) = .ok pools ∧
        (decode (encode pools)).map encode = .ok (encode pools)) ∧
      (disk.read (layout.poolsPlace id variant) = .ok (some bytes) →
        (load Disk.storage layout id variant).run disk = ((decode bytes).map some, disk)) ∧
      ∀ text members ending trailing, bytes = text.toUTF8 →
        scan text = (.object members ending, trailing) →
        (∃ member ∈ members, Document.Spoils member) → ∃ fault, decode bytes = .error fault := by
  refine ⟨fun pools stored => load_stored, ?_, ?_, fun entries pools => decode_listing, ?_⟩
  · intro pools
    refine ⟨encode_eq pools, pools.documented_texts, fun entry listed => ?_⟩
    refine ⟨Pools.texts_increasing listed, fun text member => ?_⟩
    obtain ⟨digest, rfl⟩ := Pools.texts_written listed member
    exact ⟨digest.written_toHex, digest.toLower_toHex⟩
  · intro first second
    exact Digest.toHex_lt_iff
  · intro bytes
    refine ⟨fun pools => decode_eq_ok, fun fault => decode_corruption, ?_, load_disk, ?_⟩
    · intro pools _
      rw [decode_encode]
      exact ⟨rfl, rfl⟩
    · rintro text members ending trailing rfl
      exact decode_spoilt

def sparse : Pools := Table.insert (Table.insert .empty .callArg (.ofList [.zero])) .guard .empty

theorem documents_faithful_sparse : ∃ stored,
    (store Disk.storage ⟨"cache"⟩ ⟨"r", "f", "a.c"⟩ .concrete sparse).run .empty =
      (none, stored) ∧
    (load Disk.storage ⟨"cache"⟩ ⟨"r", "f", "a.c"⟩ .concrete).run stored =
      (.ok (some sparse), stored) ∧
    ∃ fault, decode (Value.object [("loop-body", .array [])]).compact.toUTF8 = .error fault ∧
      fault.isCorruption = true := by
  have done := PoolCall.replace_plain (encode sparse)
  rcases ran : (store Disk.storage ⟨"cache"⟩ ⟨"r", "f", "a.c"⟩ .concrete sparse).run .empty
    with ⟨fault, stored⟩
  rw [← store_disk, ran] at done
  obtain rfl : fault = none := done
  obtain ⟨roundTrip, _, _, _, files⟩ :=
    documents_faithful ⟨"cache"⟩ ⟨"r", "f", "a.c"⟩ .concrete .empty
  obtain ⟨_, corruption, _, _, refused⟩ :=
    files (Value.object [("loop-body", .array [])]).compact.toUTF8
  have read := scan_compact
    (show (Value.object [("loop-body", .array [])]).Fits from ⟨trivial, trivial⟩)
  have unknown : ∀ name : PoolName, name.name ≠ "loop-body" := by
    intro name
    cases name <;> decide
  obtain ⟨fault, unreadable⟩ := refused _ _ _ _ rfl read
    ⟨_, List.mem_singleton_self _, .inl ⟨"loop-body", rfl, unknown⟩⟩
  exact ⟨stored, rfl, (roundTrip sparse stored ran).2, fault, unreadable,
    corruption fault unreadable⟩

end PoolCache

end RepairMining
