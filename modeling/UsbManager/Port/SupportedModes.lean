import UsbManager.Lib.Transition
import UsbManager.Port.Manager

/-!
# The modes of the ports

The supported modes are copied from the ports by `Init` only. A `GetPorts` that finds ports, and a `RemovePort`
that removes one, leave the copy behind.
-/

namespace UsbManager.Port

open Std (ExtTreeMap)
open Transition

namespace UsbPortManager

variable {m : UsbPortManager}

/-- The modes of a port can be asked for exactly if the port is in the table, and are those of the table. -/
def Follows (m : UsbPortManager) : Prop :=
  ∀ portId, m.getSupportedModes portId =
    match m.portMap[portId]? with
    | some port => .ok port.supportedModes
    | none => .error .uecServiceInvalidValue

/-- Every port is filed under its own id. -/
def Keyed (m : UsbPortManager) : Prop := ∀ (portId : Int32) (port : UsbPort), m.portMap[portId]? = some port →
  port.id = portId

/-- A call that cannot leave the copy behind: a `GetPorts` that adds no port, a `RemovePort` that removes none. -/
def Tracked (m : UsbPortManager) : Call → Prop
  | .init _ => True
  | .getPorts query => 0 < m.portMap.size ∨ query.ports.2 = []
  | .updatePort _ _ _ => True
  | .removePort portId => portId ∉ m.portMap

/-! ### The two maps -/

section Maps

theorem follows_iff : m.Follows ↔
    ∀ portId : Int32, m.supportedModeMap[portId]? = m.portMap[portId]?.map UsbPort.supportedModes := by
  unfold Follows
  refine forall_congr' fun portId => ?_
  unfold getSupportedModes
  cases m.supportedModeMap[portId]? <;> cases m.portMap[portId]? <;> simp

theorem getElem?_addSupportedMode (m : UsbPortManager) (portId : Int32) :
    m.addSupportedMode.supportedModeMap[portId]? = m.portMap[portId]?.map UsbPort.supportedModes := by
  have copied : m.addSupportedMode.supportedModeMap =
      (∅ : ExtTreeMap Int32 Int32).insertMany
        (m.portMap.toList.map fun entry => (entry.1, entry.2.supportedModes)) := by
    rw [ExtTreeMap.insertMany_list_eq_foldl, List.foldl_map]
    exact ExtTreeMap.foldl_eq_foldl_toList
  rw [copied]
  cases found : m.portMap[portId]? with
  | none =>
    rw [ExtTreeMap.getElem?_insertMany_list_of_contains_eq_false, ExtTreeMap.getElem?_empty]
    · rfl
    · have absent : portId ∉ m.portMap.keys := by
        rw [ExtTreeMap.mem_keys, ExtTreeMap.mem_iff_isSome_getElem?, found]
        exact Bool.false_ne_true
      rw [List.map_map, ← Bool.not_eq_true, List.contains_iff_mem]
      rwa [← ExtTreeMap.map_fst_toList_eq_keys] at absent
  | some port =>
    refine ExtTreeMap.getElem?_insertMany_list_of_mem (k := portId) Std.ReflCmp.compare_self ?_ ?_
    · exact List.pairwise_map.2 ExtTreeMap.distinct_keys_toList
    · exact List.mem_map.2 ⟨(portId, port), ExtTreeMap.mem_toList_iff_getElem?_eq_some.2 found, rfl⟩

theorem follows_addSupportedMode (m : UsbPortManager) : m.addSupportedMode.Follows :=
  follows_iff.2 (getElem?_addSupportedMode m)

theorem Keyed.addPort (keyed : m.Keyed) (port : UsbPort) : (m.addPort port).Keyed := by
  intro portId other found
  unfold UsbPortManager.addPort at found
  rw [ExtTreeMap.getElem?_insertIfNew] at found
  split_ifs at found with added
  · obtain rfl := Option.some.inj found
    exact Std.LawfulEqCmp.eq_of_compare added.1
  · exact keyed portId other found

theorem Keyed.queryPort (keyed : m.Keyed) (query : Query) : (m.queryPort query).2.Keyed := by
  unfold UsbPortManager.queryPort
  generalize query.ports.2 = ports
  induction ports generalizing m with
  | nil => exact keyed
  | cons port ports ih => exact ih (keyed.addPort port)

theorem supportedModeMap_queryPort (m : UsbPortManager) (query : Query) :
    (m.queryPort query).2.supportedModeMap = m.supportedModeMap := by
  unfold UsbPortManager.queryPort
  generalize query.ports.2 = ports
  induction ports generalizing m with
  | nil => rfl
  | cons port ports ih => exact ih (m.addPort port)

/-- All ids that a query finds are in the table then. -/
theorem mem_queryPort (m : UsbPortManager) (query : Query) {port : UsbPort} (found : port ∈ query.ports.2) :
    port.id ∈ (m.queryPort query).2.portMap := by
  have stays : ∀ (ports : List UsbPort) (m : UsbPortManager), port.id ∈ m.portMap ∨ port ∈ ports →
      port.id ∈ (ports.foldl UsbPortManager.addPort m).portMap := by
    intro ports
    induction ports with
    | nil => exact fun m there => there.resolve_right List.not_mem_nil
    | cons other ports ih =>
      intro m there
      refine ih (m.addPort other) ?_
      obtain before | member := there
      · exact .inl (ExtTreeMap.mem_insertIfNew.2 (.inr before))
      · obtain rfl | later := List.mem_cons.1 member
        · exact .inl (ExtTreeMap.mem_insertIfNew.2 (.inl Std.ReflCmp.compare_self))
        · exact .inr later
  exact stays query.ports.2 m (.inr found)

/-- The three outcomes of `GetPorts`. -/
theorem getPorts_cases (m : UsbPortManager) (query : Query) :
    (0 < m.portMap.size ∧ m.getPorts query = ((.uecOk, m.portMap.toList.map (·.2)), m)) ∨
      (m.portMap = ∅ ∧ (m.getPorts query).2 = (m.queryPort query).2 ∧
        ((m.getPorts query).1.2 = [] ∨ (m.getPorts query).1.2 = (m.queryPort query).2.portMap.toList.map (·.2))) := by
  unfold getPorts
  by_cases ports : 0 < m.portMap.size
  · rw [if_pos ports]
    exact .inl ⟨ports, rfl⟩
  · rw [if_neg ports]
    refine .inr ⟨ExtTreeMap.eq_empty_iff_size_eq_zero.2 (Nat.eq_zero_of_not_pos ports), ?_⟩
    dsimp only
    split_ifs
    · exact ⟨rfl, .inr rfl⟩
    · exact ⟨rfl, .inl rfl⟩

/-- A port keeps its id and its modes. -/
theorem updatePort_cases (m : UsbPortManager) (portId powerRole dataRole : Int32) :
    m.updatePort portId powerRole dataRole = m ∨
      ∃ port port', m.portMap[portId]? = some port ∧ port'.id = portId ∧ port'.supportedModes = port.supportedModes ∧
        m.updatePort portId powerRole dataRole = { m with portMap := m.portMap.insert portId port' } := by
  unfold updatePort
  cases found : m.portMap[portId]? with
  | none => exact .inl rfl
  | some port =>
    dsimp only
    split_ifs with own
    · exact .inr
        ⟨port, { port with usbPortStatus := port.usbPortStatus.withRoles powerRole dataRole }, rfl, own, rfl, rfl⟩
    · exact .inl rfl

end Maps

/-! ### Steps -/

section Steps

theorem Keyed.exec (keyed : m.Keyed) (call : Call) : (m.exec call).Keyed := by
  cases call with
  | init query => exact keyed.queryPort query
  | getPorts query =>
    obtain ⟨-, same⟩ | ⟨-, queried, -⟩ := getPorts_cases m query
    · rw [UsbPortManager.exec, same]
      exact keyed
    · rw [UsbPortManager.exec, queried]
      exact keyed.queryPort query
  | updatePort portId powerRole dataRole =>
    obtain same | ⟨port, port', -, own, -, changed⟩ := updatePort_cases m portId powerRole dataRole
    · rw [UsbPortManager.exec, same]
      exact keyed
    · rw [UsbPortManager.exec, changed]
      intro other port found
      rw [ExtTreeMap.getElem?_insert] at found
      split_ifs at found with same
      · obtain rfl := Option.some.inj found
        exact own.trans (Std.LawfulEqCmp.eq_of_compare same)
      · exact keyed other port found
  | removePort portId =>
    intro other port found
    unfold UsbPortManager.exec removePort at found
    rw [ExtTreeMap.getElem?_erase] at found
    split_ifs at found
    exact keyed other port found

/-- A query leaves the copy as it is, so a port that it adds is missing there. -/
theorem Follows.queryPort_iff (follows : m.Follows) (none : m.portMap = ∅) (query : Query) :
    (m.queryPort query).2.Follows ↔ query.ports.2 = [] := by
  constructor
  · intro after
    refine List.eq_nil_iff_forall_not_mem.2 fun port found => ?_
    have there := mem_queryPort m query found
    rw [ExtTreeMap.mem_iff_isSome_getElem?, ← Option.isSome_map, ← follows_iff.1 after, supportedModeMap_queryPort,
      follows_iff.1 follows, none, ExtTreeMap.getElem?_empty] at there
    cases there
  · intro nothing
    unfold queryPort
    rw [nothing]
    exact follows

theorem Follows.updatePort (follows : m.Follows) (portId powerRole dataRole : Int32) :
    (m.updatePort portId powerRole dataRole).Follows := by
  obtain same | ⟨port, port', found, -, modes, changed⟩ := updatePort_cases m portId powerRole dataRole
  · rw [same]
    exact follows
  · rw [changed]
    refine follows_iff.2 fun other => ?_
    rw [ExtTreeMap.getElem?_insert]
    split_ifs with same
    · obtain rfl := Std.LawfulEqCmp.eq_of_compare same
      rw [follows_iff.1 follows, found, Option.map_some, Option.map_some, modes]
    · exact follows_iff.1 follows other

/-- The modes of a port stay when the port goes. -/
theorem Follows.removePort_iff (follows : m.Follows) (portId : Int32) :
    (m.removePort portId).Follows ↔ portId ∉ m.portMap := by
  constructor
  · intro after there
    have gone := follows_iff.1 after portId
    unfold removePort at gone
    rw [ExtTreeMap.getElem?_erase, if_pos Std.ReflCmp.compare_self, follows_iff.1 follows, Option.map_none,
      Option.map_eq_none_iff] at gone
    rw [ExtTreeMap.mem_iff_isSome_getElem?, gone] at there
    cases there
  · intro absent
    refine follows_iff.2 fun other => ?_
    unfold removePort
    rw [ExtTreeMap.getElem?_erase]
    split_ifs with same
    · obtain rfl := Std.LawfulEqCmp.eq_of_compare same
      rw [ExtTreeMap.mem_iff_isSome_getElem?, Bool.not_eq_true, Option.isSome_eq_false_iff, Option.isNone_iff_eq_none]
        at absent
      rw [follows_iff.1 follows, absent]
    · exact follows_iff.1 follows other

/-- While the copy follows the table, the calls that keep it so are the tracked ones. -/
theorem Follows.exec_iff (follows : m.Follows) (call : Call) : (m.exec call).Follows ↔ m.Tracked call := by
  cases call with
  | init query => exact iff_of_true (follows_addSupportedMode _) trivial
  | getPorts query =>
    obtain ⟨ports, same⟩ | ⟨none, queried, -⟩ := getPorts_cases m query
    · rw [UsbPortManager.exec, same]
      exact iff_of_true follows (.inl ports)
    · rw [UsbPortManager.exec, queried, follows.queryPort_iff none query]
      refine (or_iff_right fun some => ?_).symm
      rw [ExtTreeMap.eq_empty_iff_size_eq_zero.1 none] at some
      exact Nat.lt_irrefl 0 some
  | updatePort portId powerRole dataRole => exact iff_of_true (follows.updatePort portId powerRole dataRole) trivial
  | removePort portId => exact follows.removePort_iff portId

/-- The modes of every port that `GetPorts` returns can be asked for. -/
theorem Follows.of_getPorts (keyed : m.Keyed) (follows : m.Follows) {query : Query}
    (tracked : m.Tracked (.getPorts query)) {port : UsbPort} (returned : port ∈ (m.getPorts query).1.2) :
    (m.getPorts query).2.getSupportedModes port.id = .ok port.supportedModes := by
  have follows' : (m.getPorts query).2.Follows := (follows.exec_iff (.getPorts query)).2 tracked
  have keyed' : (m.getPorts query).2.Keyed := keyed.exec (.getPorts query)
  have listed : port ∈ (m.getPorts query).2.portMap.toList.map (·.2) := by
    obtain ⟨-, same⟩ | ⟨-, queried, none | all⟩ := getPorts_cases m query
    · rw [same] at returned ⊢
      exact returned
    · rw [none] at returned
      cases returned
    · rwa [queried, ← all]
  obtain ⟨⟨portId, port⟩, entry, rfl⟩ := List.mem_map.1 listed
  have found := ExtTreeMap.mem_toList_iff_getElem?_eq_some.1 entry
  dsimp only
  rw [follows' port.id, keyed' portId port found, found]

end Steps

end UsbPortManager

/-- While every `GetPorts` finds ports in the table or gets none from the driver, and no port is removed, the supported
modes are those of the table; the first call that does otherwise ends it. -/
theorem supportedModes_follow {m : UsbPortManager}
    (reached : Reach UsbPortManager.step UsbPortManager.Tracked {} m) :
    m.Follows ∧ (∀ call, (m.exec call).Follows ↔ m.Tracked call) ∧
      ∀ query, m.Tracked (.getPorts query) → ∀ port ∈ (m.getPorts query).1.2,
        (m.getPorts query).2.getSupportedModes port.id = .ok port.supportedModes := by
  have invariant : m.Keyed ∧ m.Follows := by
    refine reached.invariant (fun m => m.Keyed ∧ m.Follows) ⟨nofun, fun _ => rfl⟩ ?_
    rintro s call s' ⟨keyed, follows⟩ tracked taken
    obtain rfl := Option.some.inj taken
    exact ⟨keyed.exec call, (follows.exec_iff call).2 tracked⟩
  obtain ⟨keyed, follows⟩ := invariant
  exact ⟨follows, follows.exec_iff, fun query tracked port returned => follows.of_getPorts keyed tracked returned⟩

/-- The one port of most devices. -/
def typeC : UsbPort := ⟨1, 3, ⟨2, 1, 1⟩⟩

/-- The driver answers at the start and the roles of the port change. -/
theorem supportedModes_follow_start :
    ∃ m, Reach UsbPortManager.step UsbPortManager.Tracked {} m ∧ m.getSupportedModes 1 = .ok 3 ∧
      ∀ port ∈ (m.getPorts .null).1.2, (m.getPorts .null).2.getSupportedModes port.id = .ok port.supportedModes := by
  have run : Reach UsbPortManager.step UsbPortManager.Tracked {} _ :=
    .step (a := .updatePort 1 2 2) (.step (a := .init (.v2 .uecOk [typeC])) .init trivial rfl) trivial rfl
  obtain ⟨follows, -, ports⟩ := supportedModes_follow run
  refine ⟨_, run, (follows 1).trans (by decide +kernel), ports .null (.inl (by decide +kernel))⟩

/-- The driver does not answer at the start; a `GetPorts` finds the port later and its modes are not known. And the
modes of a port that has been removed are known. -/
theorem supportedModes_left_behind :
    (∃ m, Reach UsbPortManager.step anyStep {} m ∧ (m.getPorts .null).1 = (.uecOk, [typeC]) ∧
      m.getSupportedModes 1 = .error .uecServiceInvalidValue ∧ ¬ m.Follows) ∧
    ∃ m, Reach UsbPortManager.step anyStep {} m ∧ m.portMap[(1 : Int32)]? = none ∧ m.getSupportedModes 1 = .ok 3 ∧
      ¬ m.Follows := by
  have found : Reach UsbPortManager.step anyStep {} _ := reach_of_runFrom
    [.init (.v2 .hdfFailure []), .getPorts (.v2 .uecOk [typeC])] (fun _ _ _ => trivial) .init rfl
  have removed : Reach UsbPortManager.step anyStep {} _ := reach_of_runFrom
    [.init (.v2 .uecOk [typeC]), .removePort 1] (fun _ _ _ => trivial) .init rfl
  refine ⟨⟨_, found, by decide +kernel, by decide +kernel, fun follows => ?_⟩,
    _, removed, by decide +kernel, by decide +kernel, fun follows => ?_⟩
  · exact absurd (follows 1) (by decide +kernel)
  · exact absurd (follows 1) (by decide +kernel)

end UsbManager.Port
