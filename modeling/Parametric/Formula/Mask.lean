import Parametric.Dialect.Basic

/-! # Occurrences of names in texts, and their masking by blanks -/
namespace Parametric.Formula

variable (d : Dialect)

def delimits : Option Char → Bool
  | none => true
  | some c => d.isBoundary c

def opensWith (name : Text) (left : Option Char) (text : Text) : Bool :=
  name.isPrefixOf text && delimits d left && delimits d (text.drop name.length).head?

def mentionedFrom (name : Text) (left : Option Char) : Text → Bool
  | [] => false
  | c :: rest => opensWith d name left (c :: rest) || mentionedFrom name (some c) rest

/-- Some occurrence of a name that is not empty is delimited on both sides. -/
def mentions (name text : Text) : Bool := !name.isEmpty && mentionedFrom d name none text

/-- `skip` characters of an occurrence are still to be blanked; a blanked neighbour is a blank. -/
def maskFrom (name : Text) (skip : Nat) (left : Option Char) : Text → Text
  | [] => []
  | c :: rest =>
    match skip with
    | skip + 1 => ' ' :: maskFrom name skip (some ' ') rest
    | 0 =>
      if opensWith d name left (c :: rest) then
        ' ' :: maskFrom name (name.length - 1) (some ' ') rest
      else c :: maskFrom name 0 (some c) rest

/-- Blanks the delimited occurrences of a name from left to right, none inside another. -/
def mask (name text : Text) : Text := if name.isEmpty then text else maskFrom d name 0 none text

def longestFirst {α : Type} (size : α → Nat) (xs : List α) : List α :=
  xs.mergeSort fun a b => size b ≤ size a

/-- Longer names go first, so that no name is blanked inside a longer one. -/
def maskAll (names : List Text) (text : Text) : Text :=
  (longestFirst List.length (names.filter (! ·.isEmpty))).foldl (fun t n => mask d n t) text

end Parametric.Formula
