import CodexPool.DataPlane.Snapshot
import CodexPool.Lib.Turns
import Mathlib.Data.List.Count

/-!
# Selection of an outbound proxy

Requests to upstream accounts go out through a pool of proxies. Each selection takes the next turn
of a shared counter, and a proxy has as many of the turns of a round as its weight. When no proxy
is available, the mode of the pool says whether a request may go out directly.
-/

namespace CodexPool

open Stateful

/-- The pool with the counter of its selections. -/
structure OutboundProxySelector extends OutboundProxyRuntime where
  sequence : Nat

structure SelectedUpstreamRoute where
  proxyId : Option Uuid
  proxyLabel : Option String
  proxyUrl : Option String
  usedDirectFallback : Bool
deriving DecidableEq

abbrev SelectorM := StateM OutboundProxySelector

/-- The node whose turn a slot is, where the turns of the first node begin at `cursor`. -/
def nodeAtSlot (slot : Nat) : (cursor : Nat) → List OutboundProxyNode → Option OutboundProxyNode
  | _, [] => none
  | cursor, node :: nodes =>
    let cursor := min (cursor + max node.weight 1) (2 ^ 64 - 1)
    if slot < cursor then some node else nodeAtSlot slot cursor nodes

/-- Advances the counter, which wraps around, and gives its value before. -/
def fetchAddSequence : SelectorM Nat := do
  let o ← get
  set { o with sequence := (o.sequence + 1) % 2 ^ 64 }
  pure o.sequence

def pickWeighted (nodes : List OutboundProxyNode) : SelectorM (Option OutboundProxyNode) :=
  if nodes.isEmpty then pure none
  else do
    let totalWeight := max ((nodes.map fun node => max node.weight 1).sum % 2 ^ 64) 1
    let sequence ← fetchAddSequence
    pure (nodeAtSlot (sequence % totalWeight) 0 nodes)

def OutboundProxyRuntime.availableNodes (o : OutboundProxyRuntime) (now : Nat) :
    List OutboundProxyNode :=
  o.nodes.filter fun node =>
    node.enabled && decide (0 < node.weight) &&
      (match o.unavailableUntil node.id with
      | none => true
      | some until_ => decide (until_ ≤ now))

def selectRoute (now : Nat) : SelectorM (Except String SelectedUpstreamRoute) := do
  let o ← get
  if !o.settings.enabled then pure (.ok ⟨none, none, none, false⟩)
  else do
    match ← pickWeighted (o.availableNodes now) with
    | some node => pure (.ok ⟨some node.id, some node.label, some node.proxyUrl, false⟩)
    | none =>
      if o.settings.failMode = .allowDirectFallback then pure (.ok ⟨none, none, none, true⟩)
      else pure (.error "outbound proxy pool has no available proxy")

/-! ## Turns -/

def totalWeight (nodes : List OutboundProxyNode) : Nat := (nodes.map (·.weight)).sum

section Turns

variable {nodes : List OutboundProxyNode}

/-- The slots of a round are the tickets of the nodes. -/
theorem nodeAtSlot_eq (hweight : ∀ node ∈ nodes, 0 < node.weight) {slot cursor : Nat}
    (hslot : cursor ≤ slot) (htotal : cursor + totalWeight nodes < 2 ^ 64) :
    nodeAtSlot slot cursor nodes = (Turns.tickets (·.weight) nodes)[slot - cursor]? := by
  induction nodes generalizing cursor with
  | nil => rfl
  | cons node nodes ih =>
      rw [List.forall_mem_cons] at hweight
      rw [totalWeight, List.map_cons, List.sum_cons] at htotal
      have hcursor : min (cursor + max node.weight 1) (2 ^ 64 - 1) = cursor + node.weight := by
        rw [max_eq_left hweight.1]
        omega
      rw [nodeAtSlot, hcursor, Turns.tickets_cons]
      split
      next hlt =>
        rw [List.getElem?_append_left (by rw [List.length_replicate]; omega),
          List.getElem?_replicate, if_pos (by omega)]
      next hle =>
        rw [List.getElem?_append_right (by rw [List.length_replicate]; omega),
          List.length_replicate, ih hweight.2 (by omega) (by rw [totalWeight]; omega)]
        congr 1
        omega

theorem totalWeight_pos (hne : nodes ≠ []) (hweight : ∀ node ∈ nodes, 0 < node.weight) :
    0 < totalWeight nodes := by
  rcases List.exists_mem_of_ne_nil nodes hne with ⟨node, hnode⟩
  exact List.sum_pos_iff_exists_pos_nat.2
    ⟨node.weight, List.mem_map_of_mem hnode, hweight node hnode⟩

/-- A pick takes the next turn. -/
theorem pickWeighted_run (hne : nodes ≠ []) (hweight : ∀ node ∈ nodes, 0 < node.weight)
    (htotal : totalWeight nodes < 2 ^ 64) (o : OutboundProxySelector) :
    pickWeighted nodes o =
      ((Turns.tickets (·.weight) nodes)[o.sequence % totalWeight nodes]?,
        { o with sequence := (o.sequence + 1) % 2 ^ 64 }) := by
  have hmap : nodes.map (fun node => max node.weight 1) = nodes.map (·.weight) :=
    List.map_congr_left fun node hnode => max_eq_left (hweight node hnode)
  have hpositive := totalWeight_pos hne hweight
  have hmod : max ((nodes.map fun node => max node.weight 1).sum % 2 ^ 64) 1 =
      totalWeight nodes := by
    rw [hmap, ← totalWeight, Nat.mod_eq_of_lt htotal, max_eq_left hpositive]
  have hrun : pickWeighted nodes o =
      (if nodes.isEmpty then pure none
        else do
          let sequence ← fetchAddSequence
          pure (nodeAtSlot (sequence % max ((nodes.map fun node => max node.weight 1).sum % 2 ^ 64)
            1) 0 nodes) : SelectorM (Option OutboundProxyNode)) o := rfl
  rw [hrun, List.isEmpty_eq_false_iff.2 hne, if_neg Bool.false_ne_true, hmod, bind_run]
  have hslot := nodeAtSlot_eq hweight (Nat.zero_le (o.sequence % totalWeight nodes))
    (by rwa [Nat.zero_add])
  rw [Nat.sub_zero] at hslot
  rw [← hslot]
  rfl

/-- Picks that follow each other take the turns that follow each other. -/
theorem repeat_pickWeighted (hne : nodes ≠ []) (hweight : ∀ node ∈ nodes, 0 < node.weight)
    (htotal : totalWeight nodes < 2 ^ 64) (n : Nat) (o : OutboundProxySelector)
    (hsequence : o.sequence < 2 ^ 64) :
    (repeatM (pickWeighted nodes) n o).1 = (List.range n).map fun i =>
      (Turns.tickets (·.weight) nodes)[(o.sequence + i) % 2 ^ 64 % totalWeight nodes]? := by
  induction n generalizing o with
  | zero => rfl
  | succ n ih =>
      have hrest := ih { o with sequence := (o.sequence + 1) % 2 ^ 64 }
        (Nat.mod_lt _ (by decide))
      have hrun : (repeatM (pickWeighted nodes) (n + 1) o).1 =
          (pickWeighted nodes o).1 ::
            (repeatM (pickWeighted nodes) n (pickWeighted nodes o).2).1 := rfl
      rw [hrun, pickWeighted_run hne hweight htotal, hrest, List.range_succ_eq_map,
        List.map_cons, List.map_map]
      have hfirst : (o.sequence + 0) % 2 ^ 64 = o.sequence := Nat.mod_eq_of_lt hsequence
      rw [hfirst]
      congr 1
      apply List.map_congr_left
      intro i _
      rw [Function.comp_apply, Nat.mod_add_mod, Nat.succ_eq_add_one, Nat.add_assoc,
        Nat.add_comm 1 i]

/-- While the counter does not wrap around, a round of picks calls every ticket once. -/
theorem repeat_pickWeighted_perm (hne : nodes ≠ [])
    (hweight : ∀ node ∈ nodes, 0 < node.weight) (htotal : totalWeight nodes < 2 ^ 64)
    (o : OutboundProxySelector) (hsequence : o.sequence + totalWeight nodes ≤ 2 ^ 64) :
    (repeatM (pickWeighted nodes) (totalWeight nodes) o).1.Perm
      ((Turns.tickets (·.weight) nodes).map some) := by
  have hpositive := totalWeight_pos hne hweight
  rw [repeat_pickWeighted hne hweight htotal _ _ (by omega)]
  have hturns := Turns.perm_turns o.sequence (Turns.tickets (·.weight) nodes)
  rw [Turns.length_tickets] at hturns
  have hsame : (List.range (totalWeight nodes)).map (fun i =>
      (Turns.tickets (·.weight) nodes)[(o.sequence + i) % 2 ^ 64 % totalWeight nodes]?) =
      (List.range (totalWeight nodes)).map fun i =>
        (Turns.tickets (·.weight) nodes)[(o.sequence + i) % totalWeight nodes]? := by
    apply List.map_congr_left
    intro i hi
    have hi := List.mem_range.1 hi
    rw [Nat.mod_eq_of_lt (by omega : o.sequence + i < 2 ^ 64)]
  rw [hsame]
  exact hturns

end Turns

theorem selectRoute_run (now : Nat) (o : OutboundProxySelector) :
    (selectRoute now o).1 =
      if !o.settings.enabled then .ok ⟨none, none, none, false⟩
      else match (pickWeighted (o.availableNodes now) o).1 with
        | some node => .ok ⟨some node.id, some node.label, some node.proxyUrl, false⟩
        | none =>
          if o.settings.failMode = .allowDirectFallback then .ok ⟨none, none, none, true⟩
          else .error "outbound proxy pool has no available proxy" := by
  have hrun : selectRoute now o =
      (if !o.settings.enabled then pure (.ok ⟨none, none, none, false⟩)
        else do
          match ← pickWeighted (o.availableNodes now) with
          | some node => pure (.ok ⟨some node.id, some node.label, some node.proxyUrl, false⟩)
          | none =>
            if o.settings.failMode = .allowDirectFallback then pure (.ok ⟨none, none, none, true⟩)
            else pure (.error "outbound proxy pool has no available proxy") :
        SelectorM (Except String SelectedUpstreamRoute)) o := rfl
  rw [hrun]
  cases o.settings.enabled with
  | false => rfl
  | true =>
      rw [Bool.not_true, if_neg Bool.false_ne_true, if_neg Bool.false_ne_true, bind_run]
      cases (pickWeighted (o.availableNodes now) o).1 with
      | some node => rfl
      | none =>
          dsimp only
          split
          · rfl
          · rfl

/-- In the strict mode a route is that of a proxy, unless the pool is switched off, and is never a
fallback. -/
theorem selectRoute_strict {now : Nat} {o : OutboundProxySelector}
    (hstrict : o.settings.failMode = .strictProxy) {route : SelectedUpstreamRoute}
    (h : (selectRoute now o).1 = .ok route) :
    route.usedDirectFallback = false ∧
      (o.settings.enabled = true → route.proxyId.isSome = true) := by
  rw [selectRoute_run] at h
  split at h
  next hoff =>
    rw [← Except.ok.inj h]
    refine ⟨rfl, fun hon => ?_⟩
    rw [hon] at hoff
    cases hoff
  next =>
    split at h
    next node _ =>
      rw [← Except.ok.inj h]
      exact ⟨rfl, fun _ => rfl⟩
    next =>
      rw [hstrict, if_neg (by decide)] at h
      cases h

/-- A round of picks calls every node as often as its weight, every pick gives a node, and in the
strict mode no selection falls back to a direct connection. -/
theorem pickWeighted_fair {nodes : List OutboundProxyNode} (hne : nodes ≠ [])
    (hweight : ∀ node ∈ nodes, 0 < node.weight) (htotal : totalWeight nodes < 2 ^ 64)
    (o : OutboundProxySelector) (hsequence : o.sequence + totalWeight nodes ≤ 2 ^ 64) :
    ((repeatM (pickWeighted nodes) (totalWeight nodes) o).1.Perm
        ((Turns.tickets (·.weight) nodes).map some)) ∧
      (∀ node, (repeatM (pickWeighted nodes) (totalWeight nodes) o).1.count (some node) =
        ((nodes.filter (· = node)).map (·.weight)).sum) ∧
      (∀ picked ∈ (repeatM (pickWeighted nodes) (totalWeight nodes) o).1, picked.isSome = true) ∧
      ∀ (now : Nat) (o' : OutboundProxySelector) (route : SelectedUpstreamRoute),
        o'.settings.failMode = .strictProxy → (selectRoute now o').1 = .ok route →
          route.usedDirectFallback = false ∧
            (o'.settings.enabled = true → route.proxyId.isSome = true) := by
  have hperm := repeat_pickWeighted_perm hne hweight htotal o hsequence
  refine ⟨hperm, fun node => ?_, fun picked hpicked => ?_, fun _ _ _ hstrict =>
    selectRoute_strict hstrict⟩
  · rw [hperm.count_eq, List.count_map_of_injective _ _ (Option.some_injective _),
      Turns.count_tickets]
  · rcases List.mem_map.1 (hperm.subset hpicked) with ⟨node, -, rfl⟩
    rfl

def sampleProxy (id : String) (weight : Nat) : OutboundProxyNode where
  id := ⟨id⟩
  label := id
  proxyUrl := "http://proxy"
  enabled := true
  weight := weight
  lastTestStatus := none
  lastLatencyMs := none
  lastError := none
  lastTestedAt := none
  createdAt := 0
  updatedAt := 0

def sampleSelector : OutboundProxySelector where
  settings := ⟨true, .strictProxy, 0⟩
  nodes := [sampleProxy "a" 2, sampleProxy "b" 1]
  unavailableUntil := fun _ => none
  sequence := 7

theorem pickWeighted_fair_sample :
    (repeatM (pickWeighted [sampleProxy "a" 2, sampleProxy "b" 1]) 3 sampleSelector).1.count
      (some (sampleProxy "a" 2)) = 2 :=
  ((@pickWeighted_fair [sampleProxy "a" 2, sampleProxy "b" 1] (by decide) (by decide)
    (by decide) sampleSelector (by decide)).2.1 (sampleProxy "a" 2)).trans (by decide +kernel)

end CodexPool
