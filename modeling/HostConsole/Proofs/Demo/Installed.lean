import HostConsole.Proofs.Evaluation.Extension
import HostConsole.Proofs.Session.Registration

/-! Sessions that begin with the demo's ship and calculator. What a host registers behind them
comes after their operations, so the names of these keep their meaning, and both targets stay
for as long as the session does. -/

namespace HostConsole

variable {H : Host}

namespace Session

/-- What a name means depends on nothing but the names of the operations. -/
theorem operation?_of_findIdx? {os : List (Operation H)} {names : List String}
    (hnames : os.map Operation.name = names) {name : String} {i : Nat} {o : Operation H}
    (hi : names.findIdx? (Text.alike · name) = some i) (ho : os[i]? = some o) :
    operation? os name = some o := by
  subst hnames
  rw [List.findIdx?_map, List.findIdx?_eq_some_iff_getElem] at hi
  obtain ⟨hlt, halike, hbefore⟩ := hi
  obtain ⟨_, hget⟩ := List.getElem?_eq_some_iff.1 ho
  refine List.find?_eq_some_iff_getElem.2 ⟨hget ▸ halike, i, hlt, hget, fun j hj => ?_⟩
  simpa using hbefore j hj

end Session

namespace Demo

variable (H) in
/-- The operations of the demo that are within reach whether marking is required or not. -/
def marked : List (Operation (host H)) :=
  (ship .initial).operations true ++ (calculator .initial).operations true

theorem marked_isPrefix (requireMarking : Bool) :
    marked H <+: (ship .initial).operations requireMarking ++
      (calculator .initial).operations requireMarking := by
  cases requireMarking
  · exact ⟨[_], rfl⟩
  · exact List.prefix_rfl

/-- A session that begins with the demo's two targets, behind some actions of the host. -/
def installed (settings : Settings) (actions : List (Action (host H))) : Session (host H) :=
  (install (Session.new settings)).2.afterAll actions

theorem install_new (settings : Settings) :
    (install (Session.new settings)).2 = (Session.new settings : Session (host H)).afterAll
      [.register (ship .initial), .register (calculator .initial)] :=
  rfl

section

variable {settings : Settings} {actions : List (Action (host H))}

theorem sound_installed : (installed settings actions).Sound :=
  Session.sound_afterAll settings
    (.register (ship .initial) :: .register (calculator .initial) :: actions)

theorem installed_append (more : List (Action (host H))) :
    installed settings (actions ++ more) = (installed settings actions).afterAll more :=
  Session.afterAll_append _ actions more

/-- What a name means among the operations of the demo alone, it means for good. -/
theorem operation?_installed {name : String} {i : Nat} {o : Operation (host H)}
    (hi : ((marked noHost).map Operation.name).findIdx? (Text.alike · name) = some i)
    (ho : (marked H)[i]? = some o) :
    Session.operation? (installed settings actions).operations name = some o := by
  have hfirst : (install (Session.new settings : Session (host H))).2.operations =
      (ship .initial).operations settings.requireMarking ++
        (calculator .initial).operations settings.requireMarking := by
    obtain ⟨-, ho⟩ := Session.registry_afterAll settings
      [.register (ship (H := H) .initial), .register (calculator .initial)]
    rw [install_new, ho]
    exact congrArg _ (List.append_nil _)
  obtain ⟨more, hmore⟩ : marked H <+: (installed settings actions).operations :=
    ((marked_isPrefix settings.requireMarking).trans (hfirst ▸ List.prefix_rfl)).trans
      (Session.operations_afterAll _ actions)
  have hmeans : Session.operation? (marked H) name = some o :=
    Session.operation?_of_findIdx? rfl hi ho
  rw [← hmore]
  exact Session.operation?_append hmeans more

/-- All operations of the calculator are those of its table, whatever else is registered. -/
theorem mem_declarations_of_installed {o : Operation (host H)}
    (ho : o ∈ (installed settings actions).operations) (howner : o.owner = .calculator) :
    ∃ d ∈ Calculator.declarations, o = ⟨.calculator, d⟩ ∧
      (settings.requireMarking = true → d.marked = true) := by
  obtain ⟨-, hops⟩ := Session.registry_afterAll settings
    (.register (ship (H := H) .initial) :: .register (calculator .initial) :: actions)
  have hall : o ∈ (firsts (ship (H := H) .initial :: calculator .initial ::
      Session.offers actions)).flatMap (·.operations settings.requireMarking) := hops ▸ ho
  obtain ⟨t, ht, hot⟩ := List.mem_flatMap.1 hall
  obtain ⟨d, hd, rfl⟩ := List.mem_map.1 hot
  -- one target of the kind is left, and it is the one that was installed
  have hcalc : t = calculator .initial := by
    simp only [firsts, List.mem_cons, List.mem_filter] at ht
    rcases ht with rfl | ⟨rfl | ⟨-, hne⟩, -⟩
    · cases howner
    · rfl
    · exact absurd howner (of_decide_eq_true hne)
  subst hcalc
  cases hm : settings.requireMarking with
  | true =>
    rw [hm, if_pos rfl] at hd
    obtain ⟨hd, hmark⟩ := List.mem_filter.1 hd
    exact ⟨d, hd, rfl, fun _ => hmark⟩
  | false =>
    rw [hm, if_neg Bool.false_ne_true] at hd
    exact ⟨d, hd, rfl, fun h => absurd h Bool.false_ne_true⟩

theorem exists_ship : ∃ state : Ship,
    Tracked.find? (H := host H) .ship (installed settings actions).targets = some state :=
  ⟨_, Session.target_afterAll (H := host H) (k := .ship) rfl actions⟩

theorem exists_calculator : ∃ state : Calculator,
    Tracked.find? (H := host H) .calculator (installed settings actions).targets = some state :=
  ⟨_, Session.target_afterAll (H := host H) (k := .calculator) rfl actions⟩

end

end Demo

end HostConsole
