import Turnstile.Template.Action
/-! Text with actions between double braces. A template is cut into pieces
once; rendering goes through them in order and stops at the first failure. -/
namespace Turnstile.Template

inductive Piece where
  | text (s : List Char)
  | action (source : List Char) (trimsLeft trimsRight : Bool)
  deriving DecidableEq, Repr

def breakOn (mark : Char) : List Char → Option (List Char × List Char)
  | c :: d :: rest =>
    if c = mark && d = mark then some ([], rest)
    else (breakOn mark (d :: rest)).map fun (s, r) => (c :: s, r)
  | _ => none

theorem breakOnShortens {mark : Char} {s before after : List Char}
    (h : breakOn mark s = some (before, after)) : after.length < s.length := by
  fun_induction breakOn mark s generalizing before after with
  | case1 c d rest same =>
    cases Option.some.inj h
    exact Nat.lt_succ_of_lt (Nat.lt_succ_self rest.length)
  | case2 c d rest other ih =>
    obtain ⟨⟨s, r⟩, hs, last⟩ := Option.map_eq_some_iff.mp h
    cases last
    have := ih hs
    simp at this ⊢; omega
  | case3 => simp at h

def byteSize (s : List Char) : Nat := (String.ofList s).utf8ByteSize

def opening : Char := '\x7b'
def closing : Char := '\x7d'

def trimsLeft? : List Char → Option (List Char)
  | '-' :: c :: rest => if Text.isBlank c then some (c :: rest) else none
  | _ => none

def pieceOf (source : List Char) : Piece :=
  let (source, left) := match trimsLeft? source with
    | some rest => (rest, true)
    | none => (source, false)
  let (source, right) := match trimsLeft? source.reverse with
    | some rest => (rest.reverse, true)
    | none => (source, false)
  .action (Text.trimRight (Text.trimLeft source)) left right

structure Cut where
  pieces : List Piece
  unclosed : Option Nat
  deriving DecidableEq, Repr

def cutFrom (offset : Nat) (s : List Char) : Cut :=
  match _h : breakOn opening s with
  | none => ⟨[.text s], none⟩
  | some (text, rest) =>
    match _h' : breakOn closing rest with
    | none => ⟨[.text text], some (offset + byteSize text)⟩
    | some (source, after) =>
      let tail := cutFrom (offset + byteSize text + 2 + byteSize source + 2) after
      ⟨.text text :: pieceOf source :: tail.pieces, tail.unclosed⟩
termination_by s.length
decreasing_by exact Nat.lt_trans (breakOnShortens _h') (breakOnShortens _h)

def cut (template : String) : Cut := cutFrom 0 template.toList

structure Output where
  text : List Char
  trims : Bool
  deriving DecidableEq, Repr

def Output.push (data : Json) (out : Output) : Piece → Except RenderError Output
  | .text s => .ok { out with text := out.text ++ if out.trims then Text.trimLeft s else s }
  | .action source left right =>
    match evalAction source data with
    | .error e => .error e
    | .ok value =>
      .ok ⟨(if left then Text.trimRight out.text else out.text) ++ (toText value).toList, right⟩

def Output.pushAll (data : Json) (out : Output) : List Piece → Except RenderError Output
  | [] => .ok out
  | piece :: rest =>
    match out.push data piece with
    | .error e => .error e
    | .ok out => out.pushAll data rest

def render (template : String) (data : Json) : Except RenderError String :=
  let cut := cut template
  match Output.pushAll data ⟨[], false⟩ cut.pieces with
  | .error e => .error e
  | .ok out =>
    match cut.unclosed with
    | some offset => .error (.unclosed offset)
    | none => .ok (String.ofList out.text)

end Turnstile.Template
