import VectorCommitment.Text.Basic

namespace VectorCommitment.Text.Punycode

def digit (value : Nat) : CodePoint := if value < 26 then 0x61 + value else 0x16 + value

def threshold (bias place : Nat) : Nat := max 1 (min 26 (place - bias))

def digits (bias : Nat) : Nat → Nat → Nat → Text
  | 0, _, _ => []
  | budget + 1, place, n =>
    let t := threshold bias place
    if n < t then [digit n]
    else digit (t + (n - t) % (36 - t)) :: digits bias budget (place + 36) ((n - t) / (36 - t))

def biasOf : Nat → Nat → Nat → Nat
  | 0, bias, _ => bias
  | budget + 1, bias, n =>
    if 455 < n then biasOf budget (bias + 36) (n / 35) else bias + 36 * n / (n + 38)

def adapt (n count : Nat) (first : Bool) : Nat :=
  let n := if first then n / 700 else n / 2
  biasOf (n + 1) 0 (n + n / count)

structure Progress where
  steps : Nat
  bias : Nat
  count : Nat
  written : Text

def Progress.pass (ascii : Nat) (c : CodePoint) (p : Progress) (place : CodePoint) : Progress :=
  if place < c then { p with steps := p.steps + 1 }
  else if place = c then
    ⟨0, adapt p.steps (p.count + 1) (p.count = ascii), p.count + 1,
      p.written ++ digits p.bias (p.steps + 1) 36 p.steps⟩
  else p

def Progress.write (t : Text) (ascii : Nat) (p : Progress × CodePoint) (c : CodePoint) :
    Progress × CodePoint :=
  let skipped := (c - p.2) * (p.1.count + 1)
  let p := t.foldl (Progress.pass ascii c) { p.1 with steps := p.1.steps + skipped }
  ({ p with steps := p.steps + 1 }, c + 1)

def distinct (t : Text) : Text := (t.mergeSort (· ≤ ·)).eraseDups

def encode (t : Text) : Text :=
  let ascii := t.filter (· < 0x80)
  let others := distinct (t.filter (0x80 ≤ ·))
  let start := if ascii.isEmpty then [] else ascii ++ [0x2D]
  (others.foldl (Progress.write t ascii.length) (⟨0, 72, ascii.length, start⟩, 0x80)).1.written

end VectorCommitment.Text.Punycode
