import Turnstile.Yaml.Token
import Turnstile.Yaml.Value
/-! The documents of a YAML stream. They are read one after the other, so that a
fault spoils the document it stands in and none before it. -/
namespace Turnstile.Yaml

abbrev Read (α : Type) := Option (α × List Token)

def comesNext? (ends : List Token) : List Token → Option Bool
  | [] => none
  | t :: _ => some (ends.contains t)

def blockEnds : List Token := [.key, .value, .blockEnd]

mutual

def node : Nat → Bool → Bool → List Token → Read Yaml
  | 0, _, _, _ => none
  | fuel + 1, block, bare, ts =>
    match ts with
    | .scalar s plain :: rest =>
      if plain then (ofPlain? s).map fun y => (y, rest) else some (.text s, rest)
    | .openSequence :: rest => (flowItems fuel true rest).map fun (ys, r) => (.sequence ys, r)
    | .openMapping :: rest => (flowPairs fuel true rest).map fun (es, r) => (.mapping es, r)
    | .entry :: _ =>
      if bare then (bareItems fuel ts).map fun (ys, r) => (.sequence ys, r) else none
    | .blockSequence :: rest =>
      if block then (blockItems fuel rest).map fun (ys, r) => (.sequence ys, r) else none
    | .blockMapping :: rest =>
      if block then (blockPairs fuel rest).map fun (es, r) => (.mapping es, r) else none
    | _ => none

def nodeOrNull : Nat → Bool → Bool → List Token → List Token → Read Yaml
  | 0, _, _, _, _ => none
  | fuel + 1, block, bare, ends, ts =>
    match comesNext? ends ts with
    | none => none
    | some true => some (.null, ts)
    | some false => node fuel block bare ts

def valueOrNull : Nat → Bool → List Token → List Token → Read Yaml
  | 0, _, _, _ => none
  | fuel + 1, block, ends, ts =>
    match ts with
    | [] => none
    | .value :: rest => nodeOrNull fuel block block ends rest
    | _ => some (.null, ts)

def blockItems : Nat → List Token → Read (List Yaml)
  | 0, _ => none
  | fuel + 1, ts =>
    match ts with
    | .blockEnd :: rest => some ([], rest)
    | .entry :: rest =>
      match nodeOrNull fuel true false [.entry, .blockEnd] rest with
      | none => none
      | some (y, rest) => (blockItems fuel rest).map fun (ys, r) => (y :: ys, r)
    | _ => none

def bareItems : Nat → List Token → Read (List Yaml)
  | 0, _ => none
  | fuel + 1, ts =>
    match ts with
    | [] => none
    | .entry :: rest =>
      match nodeOrNull fuel true false (.entry :: blockEnds) rest with
      | none => none
      | some (y, rest) => (bareItems fuel rest).map fun (ys, r) => (y :: ys, r)
    | _ => some ([], ts)

def blockPairs : Nat → List Token → Read (List (Yaml × Yaml))
  | 0, _ => none
  | fuel + 1, ts =>
    match ts with
    | .blockEnd :: rest => some ([], rest)
    | .key :: rest =>
      match nodeOrNull fuel true true blockEnds rest with
      | none => none
      | some (k, rest) =>
        match valueOrNull fuel true blockEnds rest with
        | none => none
        | some (v, rest) => (blockPairs fuel rest).map fun (es, r) => ((k, v) :: es, r)
    | _ => none

def flowItems : Nat → Bool → List Token → Read (List Yaml)
  | 0, _, _ => none
  | fuel + 1, first, ts =>
    match ts, first with
    | .closeSequence :: rest, _ => some ([], rest)
    | .comma :: .closeSequence :: rest, false => some ([], rest)
    | .comma :: rest, false => flowItem fuel rest
    | ts, true => flowItem fuel ts
    | _, false => none

def flowItem : Nat → List Token → Read (List Yaml)
  | 0, _ => none
  | fuel + 1, ts =>
    let item : Read Yaml :=
      match ts with
      | .key :: rest =>
        match nodeOrNull fuel false false [.value, .comma, .closeSequence] rest with
        | none => none
        | some (k, rest) =>
          (valueOrNull fuel false [.comma, .closeSequence] rest).map fun (v, r) => (.mapping [(k, v)], r)
      | ts => node fuel false false ts
    match item with
    | none => none
    | some (y, rest) => (flowItems fuel false rest).map fun (ys, r) => (y :: ys, r)

def flowPairs : Nat → Bool → List Token → Read (List (Yaml × Yaml))
  | 0, _, _ => none
  | fuel + 1, first, ts =>
    match ts, first with
    | .closeMapping :: rest, _ => some ([], rest)
    | .comma :: .closeMapping :: rest, false => some ([], rest)
    | .comma :: rest, false => flowPair fuel rest
    | ts, true => flowPair fuel ts
    | _, false => none

def flowPair : Nat → List Token → Read (List (Yaml × Yaml))
  | 0, _ => none
  | fuel + 1, ts =>
    let pair : Read (Yaml × Yaml) :=
      match ts with
      | .key :: rest =>
        match nodeOrNull fuel false false [.value, .comma, .closeMapping] rest with
        | none => none
        | some (k, rest) =>
          (valueOrNull fuel false [.comma, .closeMapping] rest).map fun (v, r) => ((k, v), r)
      | ts => (node fuel false false ts).map fun (k, r) => ((k, .null), r)
    match pair with
    | none => none
    | some (e, rest) => (flowPairs fuel false rest).map fun (es, r) => (e :: es, r)

end

def keysDiffer : List (Yaml × Yaml) → Bool
  | [] => true
  | (k, _) :: rest => !(rest.any fun e => e.1 == k) && keysDiffer rest

mutual

def isSound : Nat → Yaml → Bool
  | depth, .sequence items => 0 < depth && areSound (depth - 1) items
  | depth, .mapping entries => 0 < depth && keysDiffer entries && entriesSound (depth - 1) entries
  | _, _ => true

def areSound : Nat → List Yaml → Bool
  | _, [] => true
  | depth, y :: rest => isSound depth y && areSound depth rest

def entriesSound : Nat → List (Yaml × Yaml) → Bool
  | _, [] => true
  | depth, (k, v) :: rest => isSound depth k && isSound depth v && entriesSound depth rest

end

def maxDepth : Nat := 128

def document (ts : List Token) : Read Yaml :=
  match nodeOrNull (8 * ts.length + 16) true false [.documentStart, .documentEnd, .streamEnd] ts with
  | none => none
  | some (y, rest) =>
    if isSound maxDepth y then
      match rest with
      | [] => none
      | .documentEnd :: rest => some (y, rest)
      | rest => some (y, rest)
    else none

def documentsFrom (first : Bool) : Nat → List Token → List (Option Yaml)
  | 0, _ => []
  | fuel + 1, ts =>
    let ts := if first then ts else ts.dropWhile (· = .documentEnd)
    match ts with
    | [] => [none]
    | .streamEnd :: _ => []
    | .documentStart :: rest => following fuel (document rest)
    | t :: rest =>
      if first && t ≠ .documentEnd then following fuel (document (t :: rest)) else [none]
where
  following : Nat → Read Yaml → List (Option Yaml)
    | fuel, some (y, rest) => some y :: documentsFrom false fuel rest
    | _, none => [none]

def documents (text : String) : List (Option Yaml) :=
  let ts := tokens text
  documentsFrom true (ts.length + 1) ts

end Turnstile.Yaml
