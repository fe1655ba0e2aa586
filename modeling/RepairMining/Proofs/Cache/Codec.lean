import RepairMining.Cache.Pools
import RepairMining.Proofs.Document.Pool
import RepairMining.Proofs.Mining.Totality

namespace RepairMining

open Json

/-- Both trees have node numbers of 32 bits. -/
def Diff.Small (diff : Diff) : Prop := ∀ side, (diff.tree side).size ≤ 4294967296

theorem ActionSet.Sound.numbered {set : ActionSet} {diff : Diff} (sound : set.Sound diff)
    (small : diff.Small) (kind : ActionKind) :
    ∀ action ∈ set.actions kind, Numbered action.mentions := by
  intro action member mention mentioned
  have inside : mention.2 < (diff.tree mention.1).size :=
    Arena.contains_iff.mp (sound.covers member mention mentioned)
  exact Nat.lt_of_lt_of_le inside (small mention.1)

namespace ActionCache

theorem contents_restores {written : Contents}
    (version : written.version < 4294967296)
    (numbered : ∀ kind, ∀ action ∈ written.actions.actions kind, Numbered action.mentions) :
    Restores contents contentsValue 6 written := by
  intro supply room
  obtain ⟨inner, entered, holds⟩ := room.enter
  have shallow : inner.Holds 0 := holds.mono (Nat.zero_le 5)
  have filled : shape.fillMembers inner
      (Value.toMembers [
        ("version", .natural written.version),
        ("before", Document.digestValue written.fingerprint.before),
        ("after", Document.digestValue written.fingerprint.after),
        ("actions", Document.actionSetValue written.actions)]) ⟨none, none, none, none⟩ =
      .ok ⟨some written.version, some written.fingerprint.before, some written.fingerprint.after,
        some written.actions⟩ := by
    simp only [Value.toMembers]
    rw [Shape.fillMembers_cons _ rfl rfl
        (RecordField.fill_of (Decode.nat32_restores version inner shallow)),
      Shape.fillMembers_cons _ rfl rfl
        (RecordField.fill_of (Document.digest_restores written.fingerprint.before inner shallow)),
      Shape.fillMembers_cons _ rfl rfl
        (RecordField.fill_of (Document.digest_restores written.fingerprint.after inner shallow)),
      Shape.fillMembers_cons _ rfl rfl
        (RecordField.fill_of (Document.actionSet_restores numbered inner holds))]
    rfl
  rw [contentsValue, Value.toReading, contents, Shape.complete_object entered filled]
  rfl

theorem contentsValue_fits {written : Contents}
    (version : written.version < 4294967296)
    (numbered : ∀ kind, ∀ action ∈ written.actions.actions kind, Numbered action.mentions) :
    (contentsValue written).Fits :=
  ⟨Nat.lt_trans version (by decide), trivial, trivial, Document.actionSetValue_fits numbered,
    trivial⟩

theorem decodeBytes_encode {set : ActionSet}
    (numbered : ∀ kind, ∀ action ∈ set.actions kind, Numbered action.mentions)
    (fingerprint : Fingerprint) :
    decodeBytes contents (encode fingerprint set) = .ok ⟨version, fingerprint, set⟩ := by
  have supported : (Contents.mk version fingerprint set).version < 4294967296 := by
    show version < 4294967296
    decide
  rw [encode, decodeBytes_toUTF8]
  exact decodeText_compact (contentsValue_fits supported numbered)
    (contents_restores supported numbered .whole (by show 6 ≤ 127; decide))

theorem decode_encode (diff : Diff) {set : ActionSet} (sound : set.Sound diff)
    (small : diff.Small) (fingerprint : Fingerprint) :
    decode diff fingerprint (encode fingerprint set) = .ok set := by
  rw [decode, decodeBytes_encode (sound.numbered small)]
  exact accept_eq_ok.mpr ⟨rfl, sound⟩

end ActionCache

namespace PoolCache

theorem encode_eq (pools : Pools) :
    encode pools = (Document.listing pools.texts).compact.toUTF8 := by
  rw [encode, Document.poolsValue_eq]

theorem decode_eq_ok {bytes : ByteArray} {pools : Pools} :
    decode bytes = .ok pools ↔ ∃ text entries, bytes = text.toUTF8 ∧
      scan text = ((Document.listing entries).toReading, false) ∧ pools.Documented entries := by
  have room : Supply.whole.Holds 2 := by
    show 2 ≤ 127
    decide
  have accepted : decode bytes = .ok pools ↔ decodeBytes Document.pools bytes = .ok pools := by
    rw [decode]
    cases decodeBytes Document.pools bytes <;> simp
  simp only [accepted, decodeBytes_eq_ok, decodeText_eq_ok, Document.pools_eq_ok room]
  constructor
  · rintro ⟨text, encoded, _, read, entries, rfl, documented⟩
    exact ⟨text, entries, encoded, read, documented⟩
  · rintro ⟨text, entries, encoded, read, documented⟩
    exact ⟨text, encoded, _, read, entries, rfl, documented⟩

theorem decode_listing {entries : List (PoolName × List String)} {pools : Pools}
    (documented : pools.Documented entries) :
    decode (Document.listing entries).compact.toUTF8 = .ok pools :=
  decode_eq_ok.mpr ⟨_, entries, rfl, scan_compact (Document.listing_fits entries), documented⟩

theorem decode_encode (pools : Pools) : decode (encode pools) = .ok pools := by
  rw [encode_eq]
  exact decode_listing pools.documented_texts

end PoolCache

end RepairMining
