import RepairMining.Digest.Basic
import RepairMining.Syntax.Arena

/-!
Structural hashes: a digest of kind, label and children of a node. Spans and the node's own role do
not count; the roles of everything below it do.
-/

namespace RepairMining

inductive HashMode where
  | concrete
  | abstract
  deriving DecidableEq, Repr

namespace HashMode

def name : HashMode → String
  | concrete => "concrete"
  | abstract => "abstract"

instance : Vocabulary HashMode where
  all := [concrete, abstract]
  name := name
  mem_all mode := by cases mode <;> decide
  nodup_all := by decide
  name_injective first second same := by
    cases first <;> cases second <;> first | rfl | exact absurd same (by decide)

def context : HashMode → String
  | concrete => "bughunter 2016 concrete structural hash v1"
  | abstract => "bughunter 2016 abstract structural hash v1"

def concreteKey : Blake3.Chaining := Blake3.contextKey (Digest.utf8 concrete.context)

def abstractKey : Blake3.Chaining := Blake3.contextKey (Digest.utf8 abstract.context)

def key : HashMode → Blake3.Chaining
  | concrete => concreteKey
  | abstract => abstractKey

def placeholder : String := "$id"

def labelOf (mode : HashMode) (attributes : Attributes) : Option String :=
  match mode, attributes.kind with
  | abstract, .identity => some placeholder
  | _, _ => attributes.label

end HashMode

namespace Canonical

def littleEndian : Nat → Nat → List UInt8
  | 0, _ => []
  | count + 1, value => UInt8.ofNat value :: littleEndian count (value / 256)

/-- A length of eight bytes and the bytes themselves, so that neighbouring fields cannot run
together. -/
def field (bytes : List UInt8) : List UInt8 := littleEndian 8 bytes.length ++ bytes

def label : Option String → List UInt8
  | none => [0]
  | some text => 1 :: field (Digest.utf8 text)

def roleName : Option Role → String
  | none => ""
  | some role => role.name

def child (role : Option Role) (digest : Digest) : List UInt8 :=
  field (Digest.utf8 (roleName role)) ++ digest.bytes

/-- The bytes that are hashed for a node whose children have the given roles and digests. -/
def node (mode : HashMode) (attributes : Attributes) (children : List (Option Role × Digest)) :
    List UInt8 :=
  field (Digest.utf8 attributes.kind.name) ++ label (mode.labelOf attributes) ++
    littleEndian 8 children.length ++ children.flatMap fun (role, digest) => child role digest

end Canonical

def nodeDigest (mode : HashMode) (attributes : Attributes)
    (children : List (Option Role × Digest)) :
    Digest :=
  .ofChaining (Blake3.derive mode.key (Canonical.node mode attributes children))

structure NodeHashes where
  mode : HashMode
  digests : Array Digest

namespace NodeHashes

def compute (mode : HashMode) (arena : Arena) : NodeHashes where
  mode := mode
  digests :=
    ((Arena.sweep
      (fun entry children => (entry.attributes.role, nodeDigest mode entry.attributes children))
      arena.entries).map (·.2)).reverse

def get? (hashes : NodeHashes) (node : Nat) : Option Digest := hashes.digests[node]?

def read (hashes : NodeHashes) (node : Nat) : Except Nat Digest :=
  match hashes.get? node with
  | none => .error node
  | some digest => .ok digest

def root (hashes : NodeHashes) : Digest := (hashes.get? 0).getD .zero

end NodeHashes

end RepairMining
