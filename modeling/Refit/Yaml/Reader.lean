import Refit.Yaml.Graph

/-!
The value of a YAML document.

Collections are made empty when they are met, and filled one after the other in the order in which
they were met, so a collection may hold itself. A value that is met in several places is shared.
-/

namespace Refit.Yaml

-- Why a text has no value: it is no document, or a scalar does not fit its tag.
inductive Failure where
  | refused (r : Refusal)
  | fault (f : Fault)

-- A number that is no character's is a fault of the value.
def Failure.ofRefusal : Refusal → Failure
  | .codePoint n => .fault (.codePoint n)
  | .tooDeep => .fault .tooDeep
  | r => .refused r

-- What a node stands for. Its parts are named by the numbers of their nodes.
inductive Made where
  | value (d : Datum)
  | list (items : List Nat)
  | pairs (entries : List (Nat × Nat))
  | dict (entries : List (Nat × Nat))
  | set (items : List Nat)

namespace Made

def parts : Made → List Nat
  | value _ => []
  | list is | set is => is
  | pairs es | dict es => es.flatMap fun e => [e.1, e.2]

-- Values that can be told apart from others that equal them.
def hasPlace : Made → Bool
  | value (.date _) | value (.moment _ _) => true
  | value _ => false
  | _ => true

-- What a collection with that tag is before it is filled.
def emptyOf? (tag : String) : Option Made :=
  if tag == Tag.seq then some (list [])
  else if tag == Tag.map then some (dict [])
  else if tag == Tag.set then some (set [])
  else if tag == Tag.ordered || tag == Tag.pairs then some (pairs [])
  else none

end Made

structure Making where
  nodes : Array Node
  made : Array (Option Made)
  -- The collections in the order in which they were met.
  met : Array Nat

abbrev Make := StateT Making (Except Failure)

namespace Making

def refuse {α : Type} (context : Option (String × Mark)) (problem : String) (m : Mark) : Make α :=
  throw (.refused (.trouble ⟨context.map Prod.fst, context.map Prod.snd, problem, some m⟩))

def read {α : Type} (r : Datum.Read α) : Make α :=
  match r with
  | .ok a => return a
  | .error f => throw (.fault f)

def expected {α : Type} (what : String) (n : Node) : Make α :=
  refuse none ("expected " ++ what ++ " node, but found " ++ n.word) n.mark

def nodeAt (id : Nat) : Make Node :=
  return (← get).nodes.getD id default

def tagAt (id : Nat) : Make String :=
  return (← nodeAt id).tag

def change (id : Nat) (f : Node → Node) : Make Unit :=
  modify fun s => { s with nodes := s.nodes.modify id f }

def setEntries (id : Nat) (es : List (Nat × Nat)) : Make Unit :=
  change id fun n => { n with content := .map es }

def isMapping (n : Node) : Bool :=
  n.content matches .map _

/-! Merged mappings -/

-- A key `=` of a mapping is an ordinary text.
def asTextKey (id : Nat) : Make Unit := do
  if (← tagAt id) == Tag.value then change id fun n => { n with tag := Tag.text }

-- The entries up to the first merge key, and what follows.
def splitAtMerge : List (Nat × Nat) → Make (List (Nat × Nat) × List (Nat × Nat))
  | [] => return ([], [])
  | e :: es => do
    if (← tagAt e.1) == Tag.merge then return ([], e :: es)
    else
      asTextKey e.1
      let (before, rest) ← splitAtMerge es
      return (e :: before, rest)

def entriesAt (id : Nat) : Make (List (Nat × Nat)) := do
  match (← nodeAt id).content with
  | .map es => return es
  | _ => return []

-- Puts the mappings that a mapping asks to merge in front of its entries. The last source of a
-- merge comes first, so that the first one has the last word. The first `index` entries are done, and
-- the others are those of the moment, for a mapping may be merged into itself.
def flattenFrom (id : Nat) : Nat → Nat → List (Nat × Nat) → Make Unit
  | 0, _, _ => throw (.fault .tooDeep)
  | fuel + 1, index, merged => do
    let n ← nodeAt id
    let es ← entriesAt id
    let (before, rest) ← splitAtMerge (es.drop index)
    match rest with
    | [] => setEntries id (merged ++ es)
    | (_, source) :: after =>
      setEntries id (es.take index ++ before ++ after)
      let s ← nodeAt source
      let context := some ("while constructing a mapping", n.mark)
      let more ← match s.content with
        | .map _ => do
          flattenFrom source fuel 0 []
          entriesAt source
        | .seq items => do
          let parts ← items.mapM fun item => do
            let x ← nodeAt item
            if isMapping x then
              flattenFrom item fuel 0 []
              entriesAt item
            else
              refuse context ("expected a mapping for merging, but found " ++ x.word) x.mark
          pure parts.reverse.flatten
        | .scalar _ =>
          refuse context
            "expected a mapping or list of mappings for merging, but found scalar" s.mark
      flattenFrom id fuel (index + before.length) (merged ++ more)

-- Every step takes a merge key away.
def flatten (id : Nat) : Make Unit := do
  flattenFrom id ((← get).nodes.size + 2) 0 []

/-! Scalars -/

-- The text of a scalar. A mapping with the key `=` stands for the scalar at that key.
def scalarTextFrom : Nat → Nat → Make String
  | 0, _ => throw (.fault .tooDeep)
  | fuel + 1, id => do
    let n ← nodeAt id
    match n.content with
    | .scalar s => return s
    | .map es =>
      match ← es.findM? fun e => return (← tagAt e.1) == Tag.value with
      | some e => scalarTextFrom fuel e.2
      | none => expected "a scalar" n
    | .seq _ => expected "a scalar" n

def scalarText (id : Nat) : Make String := do
  scalarTextFrom ((← get).nodes.size + 1) id

def sextet? (c : Char) : Option Nat :=
  if Letter.isAsciiUpper c then some (c.toNat - 'A'.toNat)
  else if Letter.isAsciiLower c then some (c.toNat - 'a'.toNat + 26)
  else if Letter.isAsciiDigit c then some (c.toNat - '0'.toNat + 52)
  else if c == '+' then some 62
  else if c == '/' then some 63
  else none

def base64Groups : List Nat → List UInt8
  | a :: b :: c :: d :: r =>
    let n := ((a * 64 + b) * 64 + c) * 64 + d
    UInt8.ofNat (n / 65536) :: UInt8.ofNat (n / 256) :: UInt8.ofNat n :: base64Groups r
  | [a, b, c] =>
    let n := (a * 64 + b) * 64 + c
    [UInt8.ofNat (n / 1024), UInt8.ofNat (n / 4)]
  | [a, b] => [UInt8.ofNat ((a * 64 + b) / 16)]
  | _ => []

-- Bytes in base 64. Characters outside the alphabet are skipped, and what follows full padding is
-- not looked at. The number counts the padding since the last digit.
def base64 : Nat → List Char → List Nat → Except String (List UInt8)
  | _, [], ds =>
    if ds.length % 4 == 0 then .ok (base64Groups ds.reverse)
    else if ds.length % 4 == 1 then
      .error ("Invalid base64-encoded string: number of data characters (" ++ toString ds.length
        ++ ") cannot be 1 more than a multiple of 4")
    else .error "Incorrect padding"
  | pads, c :: r, ds =>
    if c == '=' then
      if 2 ≤ ds.length % 4 then
        if 4 ≤ ds.length % 4 + (pads + 1) then .ok (base64Groups ds.reverse)
        else base64 (pads + 1) r ds
      else base64 pads r ds
    else match sextet? c with
      | some d => base64 0 r (d :: ds)
      | none => base64 pads r ds

-- The trouble with a text that should be of ASCII characters only: its first run of others.
def asciiTrouble (s : List Char) : String :=
  let before := s.takeWhile (·.toNat ≤ 127)
  let run := (s.drop before.length).takeWhile (127 < ·.toNat)
  let i := before.length
  let what :=
    match run with
    | [c] =>
      "character '" ++ String.ofList (Text.Quoted.numbered c) ++ "' in position " ++ toString i
    | _ => "characters in position " ++ toString i ++ "-" ++ toString (i + run.length - 1)
  "'ascii' codec can't encode " ++ what ++ ": ordinal not in range(128)"

def binary (m : Mark) (s : String) : Make Datum :=
  if s.toList.any (127 < ·.toNat) then
    refuse none ("failed to convert base64 data into ascii: " ++ asciiTrouble s.toList) m
  else match base64 0 s.toList [] with
    | .ok bytes => return .bytes bytes
    | .error e => refuse none ("failed to decode base64 data: " ++ e) m

-- A moment is read off the scalar itself.
def time (n : Node) (s : String) : Make Datum :=
  match n.content with
  | .scalar _ => read (timeOf s)
  | _ => throw (.fault (.notSearchable "list"))

def scalarOf (id : Nat) : Make Datum := do
  let n ← nodeAt id
  let t := n.tag
  if t == Tag.null then
    let _ ← scalarText id
    return .null
  else if t == Tag.bool then read (truthOf (← scalarText id))
  else if t == Tag.int then read (integerOf (← scalarText id))
  else if t == Tag.float then read (floatOf (← scalarText id))
  else if t == Tag.time then time n (← scalarText id)
  else if t == Tag.text then return .text (← scalarText id)
  else if t == Tag.binary then binary n.mark (← scalarText id)
  else refuse none ("could not determine a constructor for the tag " ++ t.quoted) n.mark

/-! Collections -/

-- Makes the value of a node: a scalar at once, a collection to be filled later.
def make (id : Nat) : Make Unit := do
  if ((← get).made[id]?.join).isNone then
    match Made.emptyOf? (← tagAt id) with
    | some x =>
      modify fun s => { s with made := s.made.set! id (some x), met := s.met.push id }
    | none =>
      let d ← scalarOf id
      modify fun s => { s with made := s.made.set! id (some (.value d)) }

-- Entries with their keys, each key in its first place and with its last value.
def putKey : List ((Nat × Datum) × Nat) → Nat × Datum → Nat → List ((Nat × Datum) × Nat)
  | [], k, v => [(k, v)]
  | e :: es, k, v => if e.1.2.same k.2 then (e.1, v) :: es else e :: putKey es k v

def entriesOf (id : Nat) : Make (List (Nat × Nat)) := do
  if isMapping (← nodeAt id) then
    flatten id
    let n ← nodeAt id
    let keyed ← (← entriesAt id).mapM fun (k, v) => do
      make k
      match (← get).made[k]?.join with
      | some (.value key) =>
        make v
        return ((k, key), v)
      | _ =>
        refuse (some ("while constructing a mapping", n.mark)) "found unhashable key"
          (← nodeAt k).mark
    return (keyed.foldl (fun es (k, v) => putKey es k v) []).map fun (k, v) => (k.1, v)
  else expected "a mapping" (← nodeAt id)

def itemsOf (id : Nat) : Make (List Nat) := do
  let n ← nodeAt id
  match n.content with
  | .seq items =>
    items.forM make
    return items
  | _ => expected "a sequence" n

-- The entries of a sequence of mappings with one entry each.
def pairsOf (what : String) (id : Nat) : Make (List (Nat × Nat)) := do
  let n ← nodeAt id
  let context := some ("while constructing " ++ what, n.mark)
  match n.content with
  | .seq items =>
    items.mapM fun item => do
      let x ← nodeAt item
      match x.content with
      | .map [e] =>
        make e.1
        make e.2
        return e
      | .map es =>
        refuse context
          ("expected a single mapping item, but found " ++ toString es.length ++ " items") x.mark
      | _ => refuse context ("expected a mapping of length 1, but found " ++ x.word) x.mark
  | _ => refuse context ("expected a sequence, but found " ++ n.word) n.mark

def filled (id : Nat) : Make Made := do
  let t ← tagAt id
  if t == Tag.seq then return .list (← itemsOf id)
  else if t == Tag.map then return .dict (← entriesOf id)
  else if t == Tag.set then return .set ((← entriesOf id).map Prod.fst)
  else if t == Tag.ordered then return .pairs (← pairsOf "an ordered map" id)
  else return .pairs (← pairsOf "pairs" id)

-- Fills the collections from one on. There are no more of them than nodes.
def fillFrom : Nat → Nat → Make Unit
  | 0, _ => pure ()
  | fuel + 1, i => do
    match (← get).met[i]? with
    | none => pure ()
    | some id =>
      let x ← filled id
      modify fun s => { s with made := s.made.set! id (some x) }
      fillFrom fuel (i + 1)

end Making

-- The values of a document's nodes.
def Graph.make (g : Graph) : Except Failure (Array (Option Made)) := do
  let start : Making := ⟨g.nodes, Array.replicate g.nodes.size none, #[]⟩
  let making : Make Unit := do
    Making.make g.root
    Making.fillFrom (g.nodes.size + 1) 0
  return (← making.run start).2.made

namespace Made

variable (made : Array (Option Made))

def partsAt (id : Nat) : List Nat :=
  (made[id]?.join.map parts).getD []

-- In how many places each value stands, when those of a list are gone through.
def counts : Nat → List Nat → Array Nat → Array Nat
  | fuel + 1, id :: rest, seen =>
    let next := if seen[id]? == some 0 then partsAt made id ++ rest else rest
    counts fuel next (seen.modify id (· + 1))
  | _, _, seen => seen

-- The values that were built already and hold none that is being built.
abbrev Built := StateM (Array (Option Datum))

-- The value of a node inside those that are being built, and which of these it holds.
def datum (shared : Nat → Bool) : Nat → List Nat → Nat → Built (Datum × List Nat)
  | 0, _, _ => return (.null, [])
  | fuel + 1, outer, id => do
    if outer.contains id then return (.around id, [id])
    match (← get)[id]?.join with
    | some d => return (d, [])
    | none =>
      let part (i : Nat) : Built (Datum × List Nat) := datum shared fuel (id :: outer) i
      let entry (e : Nat × Nat) : Built ((Datum × Datum) × List Nat) := do
        let (k, a) ← part e.1
        let (v, b) ← part e.2
        return ((k, v), a ++ b)
      let whole {α : Type} (f : List α → Datum) (xs : List (α × List Nat)) : Datum × List Nat :=
        (f (xs.map Prod.fst), (xs.flatMap Prod.snd).eraseDups)
      let (d, held) ← match made[id]?.join with
        | none => pure (Datum.null, [])
        | some (.value d) => pure (d, [])
        | some (.list is) => pure (whole .list (← is.mapM part))
        | some (.set is) => pure (whole Datum.setOf (← is.mapM part))
        | some (.dict es) => pure (whole .dict (← es.mapM entry))
        | some (.pairs es) =>
          pure (whole (fun ps => .list (ps.map fun p => .tuple [p.1, p.2])) (← es.mapM entry))
      let d := if shared id then Datum.shared id d else d
      let held := held.filter (· != id)
      if held.isEmpty then modify fun built => built.set! id (some d)
      return (d, held)

end Made

-- The value of a document.
def Graph.datum (g : Graph) : Except Failure Datum := do
  let made ← g.make
  let places := (made.map fun m => ((m.map Made.parts).getD []).length).foldl (· + ·) 1
  let counts := Made.counts made places [g.root] (Array.replicate g.nodes.size 0)
  let shared (id : Nat) : Bool :=
    1 < counts.getD id 0 && (made[id]?.join.map Made.hasPlace).getD false
  let building := Made.datum made shared (g.nodes.size + 1) [] g.root
  return (building.run (Array.replicate g.nodes.size .none)).1.1

-- The value of a document, if there is one.
def valueOf (g : Except Refusal (Option Graph)) : Except Failure Datum := do
  match ← g.mapError Failure.ofRefusal with
  | none => return .null
  | some g => g.datum

-- The value of the document of a text; an empty text stands for `null`.
def read (s : String) : Except Failure Datum :=
  valueOf (Graph.ofText s)

-- The value of the document of a text that is read in portions.
def readPortions (p : Portions) : Except Failure Datum :=
  valueOf (Graph.ofPortions p)

end Refit.Yaml
