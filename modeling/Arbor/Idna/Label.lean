import Arbor.Idna.Context
import Arbor.Idna.Bidi
import Arbor.Idna.Punycode

/-!
# Internationalized host names

A host name that is not all ASCII goes out in an ASCII form (IDNA 2008, RFC 5891). The name is
cut into labels at its full stops — `.` and the ideographic, fullwidth and halfwidth
ideographic ones (`splitLabels`) — and each label is written in ASCII (`encodeLabel`): a label of
ASCII code points as it is, any other as `xn--` followed by its Punycode.

A label is refused unless (`validLabel`)

* it is not empty, and in Normalization Form C (`isNormalC`);
* it has no `-` at its start or its end, nor one in both its third and fourth places;
* it does not start with a mark;
* each of its code points may stand in a label, the contextual ones only where their context
  allows (`joinerAllowed`, `contextAllowed`);
* it follows the Bidi Rule when it holds right-to-left text (`bidiAllowed`).

An ASCII label is read in lower case; one that starts with `xn--` must go on with the Punycode
of a label that passes these rules, not empty and not ending in `-`. The ASCII form of a label
has at most 63 code points, and that of the whole name at most 253, or 254 when it ends in a
full stop: one empty label at the end stands for that full stop, and any other empty label is
refused. Every refusal is the same refusal, so the order of the checks does not matter.
-/

set_option autoImplicit false

namespace Arbor

namespace Idna

/-- Whether the hyphens of a label are where they may be: not at its start or its end, and not
in both its third and fourth places. -/
def hyphensAllowed (label : List Nat) : Bool :=
  (label.drop 2).take 2 != [45, 45] && label.head? != some 45 && label.getLast? != some 45

/-- The Bidi Rule (RFC 5893) for a label: a label without right-to-left text (classes `R`, `AL`
or `AN`) passes. One with it must start with `R` or `AL`, hold no `L`, end, marks aside, in
`R`, `AL`, `EN` or `AN`, and not mix Arabic and European numbers. -/
def bidiAllowed (label : List Nat) : Bool :=
  let classes := label.map bidiClass
  if !classes.any (fun k => k == .r || k == .al || k == .an) then true
  else
    (classes.head? == some .r || classes.head? == some .al) && !classes.contains .l &&
      (match (classes.filter (· != .nsm)).getLast? with
        | some k => k == .r || k == .al || k == .en || k == .an
        | none => false) &&
      !(classes.contains .an && classes.contains .en)

/-- Whether each code point of `label` may stand where it does; `before` holds the code points
already passed, nearest first. -/
def pointsAllowedFrom (label : List Nat) (before : List Nat) : List Nat → Bool
  | [] => true
  | c :: after =>
    isLabelPoint c &&
      (if isJoiner c then joinerAllowed before after c
        else if isContextual c then contextAllowed label before after c
        else true) &&
      pointsAllowedFrom label (c :: before) after

/-- Whether a label passes the rules of a label. -/
def validLabel (label : List Nat) : Bool :=
  !label.isEmpty && label.all isLabelPoint && isNormalC label && hyphensAllowed label &&
    !(label.head?.map isMark).getD false && pointsAllowedFrom label [] label &&
    bidiAllowed label

/-- ASCII capital letters lowered. -/
def asciiLower (s : List Nat) : List Nat :=
  s.map fun c => if 65 ≤ c && c ≤ 90 then c + 32 else c

/-- The ASCII form of a label, or `none` when the label is refused. -/
def encodeLabel (label : List Nat) : Option (List Nat) :=
  if label.all (· < 128) then
    let checked := match asciiLower label with
      | 120 :: 110 :: 45 :: 45 :: body =>
        !body.isEmpty && body.getLast? != some 45 &&
          match Punycode.decode body with
          | some decoded => validLabel decoded
          | none => false
      | lowered => validLabel lowered
    if checked && label.length ≤ 63 then some label else none
  else if validLabel label then
    let ascii := (Text.ofString "xn--").points ++ Punycode.encode label
    if ascii.length ≤ 63 then some ascii else none
  else none

/-- A full stop that ends a label: `.`, or the ideographic, fullwidth or halfwidth ideographic
full stop. -/
def isFullStop (c : Nat) : Bool := c == 0x2E || c == 0x3002 || c == 0xFF0E || c == 0xFF61

/-- The labels of a name, cut at its full stops. -/
def splitLabels (name : List Nat) : List (List Nat) :=
  name.foldr (fun c labels =>
    if isFullStop c then [] :: labels
    else match labels with
      | l :: rest => (c :: l) :: rest
      | [] => [[c]]) [[]]

/-- The ASCII form of a host name, or `none` when it is refused. A name of more than 254 code
points is refused at once: its ASCII form is at least as long. -/
def encodeName (name : List Nat) : Option (List Nat) :=
  let labels := splitLabels name
  if 254 < name.length || labels == [[]] then none
  else
    let trailing := labels.getLast? == some []
    let labels := if trailing then labels.dropLast else labels
    match labels.mapM encodeLabel with
    | none => none
    | some encoded =>
      let ascii := List.intercalate [46] encoded ++ (if trailing then [46] else [])
      if ascii.length ≤ (if trailing then 254 else 253) then some ascii else none

example : encodeName [0xFC] = some (Text.ofString "xn--tda").points ∧
    encodeName [0x2603] = none ∧ encodeName [0xFC, 0x2E, 0x2E, 0x78] = none ∧
    encodeName [0x2D, 0xFC] = none ∧ encodeName [0x661, 0x662, 0x663] = none ∧
    encodeName [0x61, 0x200D, 0x62] = none ∧
    encodeName [0xFC, 0x2E] = some (Text.ofString "xn--tda.").points := by
  decide +kernel

end Idna

end Arbor
