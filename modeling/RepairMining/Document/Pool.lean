import RepairMining.Document.Action
import RepairMining.Pool.Basic

namespace RepairMining.Document

open Json

def digest : Decoder Digest := fun supply reading =>
  match Decode.string supply reading with
  | .error error => .error error
  | .ok text =>
    match Digest.ofHex text with
    | .error fault => .error (.data (.refused fault.message))
    | .ok digest => .ok digest

def donorPool : Decoder DonorPool := fun supply reading =>
  (Decode.list digest supply reading).map .ofList

def pools : Decoder Pools := Decode.table donorPool

def digestValue (digest : Digest) : Value := .text digest.toHex

def donorPoolValue (pool : DonorPool) : Value := .array (pool.digests.map digestValue)

def poolsValue (pools : Pools) : Value := tableValue donorPoolValue pools

end RepairMining.Document
