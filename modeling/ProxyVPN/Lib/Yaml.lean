/-
Module: ProxyVPN.Lib.Yaml
Purpose: Documents of YAML as a loader leaves them, an array of nodes that name
  each other by their positions, and the loop over the pairs of a mapping that
  ends at the first pair it cannot read.
Trusted boundary: none
Main exports: Yaml.Node, Yaml.Document, Yaml.Document.getNode,
  Yaml.Document.eachPair, Yaml.Document.pairsRead, Yaml.Document.eachPair_eq
-/
import ProxyVPN.Lib.CText

namespace ProxyVPN.Yaml

/-- The pairs of a mapping are the positions of keys and values. -/
inductive Node where
  | scalar (value : List UInt8)
  | sequence
  | mapping (pairs : List (Int × Int))
deriving DecidableEq

/-- The value of a scalar, as a text of C. -/
def Node.text? : Node → Option (List UInt8)
  | .scalar value => some (CText.ofBuffer value)
  | _ => none

structure Document where
  nodes : List Node

namespace Document

/-- `yaml_document_get_node`: positions are counted from 1. -/
def getNode (doc : Document) (index : Int) : Option Node :=
  if 0 < index ∧ index ≤ doc.nodes.length then doc.nodes[(index - 1).toNat]?
  else none

/-- `yaml_document_get_root_node`. -/
def getRootNode (doc : Document) : Option Node :=
  doc.nodes.head?

/-- The text of the scalar at a position. -/
def textAt (doc : Document) (index : Int) : Option (List UInt8) :=
  (doc.getNode index).bind Node.text?

variable {σ β : Type}

/-- The loop over the pairs of a mapping. It skips a pair without key or value,
and ends where a key is no scalar or a value cannot be read. -/
def eachPair (doc : Document) (value? : Node → Option β)
    (body : σ → List UInt8 → β → σ) : List (Int × Int) → σ → σ
  | [], state => state
  | (keyIndex, valueIndex) :: rest, state =>
      if keyIndex = 0 ∨ valueIndex = 0 then
        doc.eachPair value? body rest state
      else
        match doc.textAt keyIndex with
        | none => state
        | some key =>
            match (doc.getNode valueIndex).bind value? with
            | none => state
            | some value => doc.eachPair value? body rest (body state key value)

/-- The pairs that the loop reads. -/
def pairsRead (doc : Document) (value? : Node → Option β) :
    List (Int × Int) → List (List UInt8 × β)
  | [] => []
  | (keyIndex, valueIndex) :: rest =>
      if keyIndex = 0 ∨ valueIndex = 0 then doc.pairsRead value? rest
      else
        match doc.textAt keyIndex, (doc.getNode valueIndex).bind value? with
        | some key, some value => (key, value) :: doc.pairsRead value? rest
        | _, _ => []

/-- The loop carries its body over the pairs it reads. -/
theorem eachPair_eq (doc : Document) (value? : Node → Option β)
    (body : σ → List UInt8 → β → σ) {pairs : List (Int × Int)} :
    ∀ state : σ, doc.eachPair value? body pairs state =
      (doc.pairsRead value? pairs).foldl
        (fun state pair => body state pair.1 pair.2) state := by
  induction pairs with
  | nil =>
      intro state
      rfl
  | cons pair rest inductionHypothesis =>
      intro state
      obtain ⟨keyIndex, valueIndex⟩ := pair
      unfold eachPair pairsRead
      by_cases skipped : keyIndex = 0 ∨ valueIndex = 0
      · rw [if_pos skipped, if_pos skipped]
        exact inductionHypothesis state
      · rw [if_neg skipped, if_neg skipped]
        cases doc.textAt keyIndex with
        | none => rfl
        | some key =>
            cases (doc.getNode valueIndex).bind value? with
            | none => rfl
            | some value => exact inductionHypothesis _

end Document

end ProxyVPN.Yaml
