import RepairMining.Yaml.Value

namespace RepairMining.Yaml

def depthLimit : Nat := 128

/-- What is still to be read, the expansions of tag handles, and the anchors met so far, newest
first. An anchor has no value until what it stands at is complete. -/
structure Reader where
  tokens : List Token
  handles : List (String × String)
  anchors : List (String × Option Value)

namespace Reader

def next? (reader : Reader) : Option Token := reader.tokens.head?

def drop (reader : Reader) : Reader := { reader with tokens := reader.tokens.drop 1 }

def sees (reader : Reader) (tokens : List Token) : Bool := reader.next?.any tokens.contains

def isContentEnd (reader : Reader) : Bool :=
  match reader.next? with
  | none | some (.version ..) | some (.tagHandle ..) | some .documentStart | some .documentEnd =>
    true
  | _ => false

structure Properties where
  anchor : Option String
  tag : Option String

def Properties.isEmpty (properties : Properties) : Bool :=
  properties.anchor.isNone && properties.tag.isNone

/-- A single exclamation mark says nothing about a text. -/
def Properties.specific (properties : Properties) : Properties :=
  if properties.tag == some "!" then { properties with tag := none } else properties

def expand? (reader : Reader) (handle suffix : String) : Option String :=
  if handle.isEmpty then some suffix
  else (reader.handles.lookup handle).map (· ++ suffix)

def properties? (reader : Reader) : Option (Properties × Reader) := do
  match reader.tokens with
  | .anchor name :: .tag handle suffix :: tokens | .tag handle suffix :: .anchor name :: tokens =>
    return (⟨some name, some (← reader.expand? handle suffix)⟩, { reader with tokens })
  | .anchor name :: tokens => return (⟨some name, none⟩, { reader with tokens })
  | .tag handle suffix :: tokens =>
    return (⟨none, some (← reader.expand? handle suffix)⟩, { reader with tokens })
  | _ => return (⟨none, none⟩, reader)

def begin (reader : Reader) (properties : Properties) : Reader :=
  match properties.anchor with
  | none => reader
  | some name => { reader with anchors := (name, none) :: reader.anchors }

def ownTag? (properties : Properties) : Option String :=
  properties.tag.bind fun tag =>
    match tag.toList with
    | ['!'] => some tag
    | '!' :: rest => some (String.ofList rest)
    | _ => none

/-- Notes the value of an anchor. The newest anchor of the name that has none yet is meant. -/
def fill (name : String) (value : Value) :
    List (String × Option Value) → List (String × Option Value)
  | [] => []
  | (other, none) :: anchors =>
    if other = name then (other, some value) :: anchors
    else (other, none) :: fill name value anchors
  | entry :: anchors => entry :: fill name value anchors

def close (reader : Reader) (properties : Properties) (value : Value) : Value × Reader :=
  let value := match ownTag? properties with
    | some tag => .tagged tag value
    | none => value
  match properties.anchor with
  | none => (value, reader)
  | some name => (value, { reader with anchors := fill name value reader.anchors })

def typed? (tag : Option String) (plain : Bool) (text : String) : Option Value :=
  let common := "tag:yaml.org,2002:"
  match tag with
  | none => if plain then Plain.resolve? text else some (.text text)
  | some tag =>
    if tag == common ++ "bool" then (Plain.bool? text).map .bool
    else if tag == common ++ "int" then do
      let _ ← Plain.integer? text.toList
      (← Plain.number? text)
    else if tag == common ++ "float" then
      match Plain.number?.floating? text with
      | some value => value
      | none => none
    else if tag == common ++ "null" then if Plain.null? text then some .null else none
    else if tag.startsWith "!" && plain then Plain.resolve? text
    else some (.text text)

def scalar? (reader : Reader) (properties : Properties) (plain : Bool) (text : String) :
    Option (Value × Reader) := do
  let value ← typed? properties.tag plain text
  return (reader.begin properties).close properties value

def nothing (reader : Reader) : Value × Reader := (.null, reader)

def member? (members : List (Value × Value)) (key value : Value) : Option (List (Value × Value)) :=
  if members.any (·.1 == key) then none else some ((key, value) :: members)

mutual

/-- One value. In a block it may be a block itself; behind a key the entries of a list need no
indentation of their own. -/
def value? : Nat → Nat → Bool → Bool → Reader → Option (Value × Reader)
  | 0, _, _, _, _ => none
  | fuel + 1, room, block, bare, reader =>
    match reader.tokens with
    | .alias name :: tokens =>
      match reader.anchors.lookup name with
      | some (some value) =>
        if value.depth ≤ room then some (value, { reader with tokens }) else none
      | _ => none
    | _ => do
      let (properties, reader) ← reader.properties?
      let inner (read : Nat → Reader → Option (Value × Reader)) (reader : Reader) :
          Option (Value × Reader) :=
        match room with
        | 0 => none
        | room + 1 => do
          let (value, reader) ← read room (reader.begin properties)
          return reader.close properties value
      match reader.next? with
      | some .blockEntry =>
        if bare then inner (fun room => bareEntries? fuel room []) reader
        else if properties.isEmpty then none
        else reader.scalar? properties true ""
      | some (.scalar plain text) => reader.drop.scalar? properties.specific plain text
      | some .flowSequenceStart => inner (fun room => flowItems? fuel room true []) reader.drop
      | some .flowMappingStart => inner (fun room => flowMembers? fuel room true []) reader.drop
      | some .blockSequenceStart =>
        if block then inner (fun room => blockEntries? fuel room []) reader.drop
        else if properties.isEmpty then none
        else reader.scalar? properties true ""
      | some .blockMappingStart =>
        if block then inner (fun room => blockMembers? fuel room []) reader.drop
        else if properties.isEmpty then none
        else reader.scalar? properties true ""
      | _ => if properties.isEmpty then none else reader.scalar? properties true ""

def valueUnless? : Nat → Nat → Bool → Bool → List Token → Reader → Option (Value × Reader)
  | 0, _, _, _, _, _ => none
  | fuel + 1, room, block, bare, ends, reader =>
    if reader.sees ends then some reader.nothing else value? fuel room block bare reader

def blockEntries? : Nat → Nat → List Value → Reader → Option (Value × Reader)
  | 0, _, _, _ => none
  | fuel + 1, room, items, reader =>
    match reader.next? with
    | some .blockEntry => do
      let (item, reader) ←
        valueUnless? fuel room true false [.blockEntry, .blockEnd] reader.drop
      blockEntries? fuel room (item :: items) reader
    | some .blockEnd => some (.list items.reverse, reader.drop)
    | _ => none

def bareEntries? : Nat → Nat → List Value → Reader → Option (Value × Reader)
  | 0, _, _, _ => none
  | fuel + 1, room, items, reader =>
    match reader.next? with
    | some .blockEntry => do
      let (item, reader) ←
        valueUnless? fuel room true false [.blockEntry, .key, .value, .blockEnd] reader.drop
      bareEntries? fuel room (item :: items) reader
    | _ => some (.list items.reverse, reader)

def blockMembers? : Nat → Nat → List (Value × Value) → Reader → Option (Value × Reader)
  | 0, _, _, _ => none
  | fuel + 1, room, members, reader =>
    match reader.next? with
    | some .key => do
      let ends := [.key, .value, .blockEnd]
      let (key, reader) ← valueUnless? fuel room true true ends reader.drop
      let (value, reader) ←
        if reader.sees [.value] then valueUnless? fuel room true true ends reader.drop
        else some reader.nothing
      blockMembers? fuel room (← member? members key value) reader
    | some .blockEnd => some (.mapping members.reverse, reader.drop)
    | _ => none

/-- Items between brackets. A key among them makes a mapping of one member. -/
def flowItems? : Nat → Nat → Bool → List Value → Reader → Option (Value × Reader)
  | 0, _, _, _, _ => none
  | fuel + 1, room, first, items, reader =>
    if reader.sees [.flowSequenceEnd] then some (.list items.reverse, reader.drop)
    else do
      let reader ←
        if first then some reader
        else if reader.sees [.flowEntry] then some reader.drop
        else none
      if reader.sees [.flowSequenceEnd] then return (.list items.reverse, reader.drop)
      let (item, reader) ←
        if reader.sees [.key] then
          match room with
          | 0 => none
          | room + 1 => flowPair? fuel room reader.drop
        else value? fuel room false false reader
      flowItems? fuel room false (item :: items) reader

def flowPair? : Nat → Nat → Reader → Option (Value × Reader)
  | 0, _, _ => none
  | fuel + 1, room, reader => do
    let (key, reader) ←
      if reader.sees [.value, .flowEntry, .flowSequenceEnd] then some reader.drop.nothing
      else value? fuel room false false reader
    let (value, reader) ←
      if reader.sees [.value] then
        valueUnless? fuel room false false [.flowEntry, .flowSequenceEnd] reader.drop
      else some reader.nothing
    return (.mapping [(key, value)], reader)

def flowMembers? : Nat → Nat → Bool → List (Value × Value) → Reader → Option (Value × Reader)
  | 0, _, _, _, _ => none
  | fuel + 1, room, first, members, reader =>
    if reader.sees [.flowMappingEnd] then some (.mapping members.reverse, reader.drop)
    else do
      let reader ←
        if first then some reader
        else if reader.sees [.flowEntry] then some reader.drop
        else none
      if reader.sees [.flowMappingEnd] then return (.mapping members.reverse, reader.drop)
      let ends := [.flowEntry, .flowMappingEnd]
      let (key, value, reader) ←
        if reader.sees [.key] then do
          let (key, reader) ← valueUnless? fuel room false false (.value :: ends) reader.drop
          let (value, reader) ←
            if reader.sees [.value] then valueUnless? fuel room false false ends reader.drop
            else some reader.nothing
          some (key, value, reader)
        else do
          let (key, reader) ← value? fuel room false false reader
          some (key, Value.null, reader)
      flowMembers? fuel room false (← member? members key value) reader

end

def commonHandles : List (String × String) := [("!", "!"), ("!!", "tag:yaml.org,2002:")]

/-- Takes the directives in front of a document. A version is given at most once and has to be 1.1
or 1.2; a tag handle is given at most once. -/
def directives? : Nat → Bool → List (String × String) → List Token → Option Reader
  | 0, _, _, _ => none
  | fuel + 1, versioned, handles, tokens =>
    match tokens with
    | .version major minor :: tokens =>
      if versioned || major != 1 || !(minor == 1 || minor == 2) then none
      else directives? fuel true handles tokens
    | .tagHandle handle expansion :: tokens =>
      if (handles.lookup handle).isSome then none
      else directives? fuel versioned ((handle, expansion) :: handles) tokens
    | .documentStart :: tokens =>
      some ⟨tokens, handles ++ commonHandles, []⟩
    | _ => none

def marked? (fuel : Nat) (tokens : List Token) : Option (Value × Reader) := do
  let reader ← directives? fuel false [] tokens
  if reader.isContentEnd then return reader.nothing
  value? fuel depthLimit true false reader

def document? (fuel : Nat) (tokens : List Token) : Option (Value × Reader) :=
  match tokens with
  | .version .. :: _ | .tagHandle .. :: _ | .documentStart :: _ => marked? fuel tokens
  | tokens => value? fuel depthLimit true false ⟨tokens, commonHandles, []⟩

end Reader

def read? (text : String) : Option Value := do
  let tokens ← tokens? text
  if tokens.isEmpty then return .null
  let (value, reader) ← Reader.document? (4 * tokens.length + 4) tokens
  if reader.tokens.all (· == .documentEnd) then return value else none

end RepairMining.Yaml
