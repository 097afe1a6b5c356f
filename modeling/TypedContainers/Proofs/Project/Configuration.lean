import TypedContainers.Project.Configuration
import TypedContainers.Proofs.Configuration.Document
import TypedContainers.Proofs.Except
import TypedContainers.Proofs.Project.Action

/-!
# The configuration of a world

Loading a configuration reads one file and reports; what it gives is decided by the
files of the world, and it changes none of them.
-/

namespace TypedContainers

/-- Reporting one event after the other changes the events only. -/
theorem Action.runIn_forM_report {α : Type} (event : α → Log.Event) (items : List α)
    (world : World) :
    ∃ events, Action.runIn (items.forM fun item => report (event item)) world =
        (.ok (), { world with events := events }) := by
  induction items generalizing world with
  | nil => exact ⟨world.events, rfl⟩
  | cons item rest ih =>
      obtain ⟨events, hrest⟩ := ih (world.report (event item))
      refine ⟨events, ?_⟩
      change runIn (report (event item) >>= fun _ =>
        rest.forM fun item => report (event item)) world = _
      rw [runIn_bind, runIn_report]
      exact hrest

namespace Configuration

/-- The containers that a file declares in a world. -/
def declared (world : World) (file : Path) : Except Failure SchemaSet :=
  ((world.readText file).mapError (unreadable file)).bind fun text =>
    (document file text).bind fun document =>
      ((Declaration.ofDocument document).mapError (Failure.configurationInvalid file)).map
        SchemaSet.ofDeclarations

/-- Taking the containers of a document only reports, and a document that is no
configuration is not even reported. -/
theorem runIn_schemas (file : Path) (document : Json) (world : World) :
    ∃ events, Action.runIn (schemas file document) world =
        (((Declaration.ofDocument document).mapError (Failure.configurationInvalid file)).map
          SchemaSet.ofDeclarations, { world with events := events }) ∧
      (Declaration.ofDocument document = .error .noContainers → events = world.events) := by
  simp only [schemas, Action.runIn_bind, Action.runIn_require]
  cases Declaration.ofDocument document with
  | error fault => exact ⟨world.events, rfl, fun _ => rfl⟩
  | ok declarations =>
      obtain ⟨events, hreports⟩ := Action.runIn_forM_report event declarations world
      refine ⟨events, ?_, fun herror => absurd herror (by simp)⟩
      simp only [mapError_ok, Except.map, hreports, Action.runIn_pure]

/-- Loading a configuration gives what is declared, and only reports. -/
theorem runIn_load (file : Path) (world : World) :
    ∃ events, Action.runIn (load file) world =
      (declared world file, { world with events := events }) := by
  have hread : (Machine.readText file : StateM World (Except IoError String)) world =
      (world.readText file, world) := rfl
  rw [load, declared, Action.runIn_bind, Action.runIn_attempt, hread]
  cases world.readText file with
  | error e => exact ⟨world.events, rfl⟩
  | ok text =>
      simp only [mapError_ok, Except.bind, Action.runIn_bind, Action.runIn_require]
      cases document file text with
      | error failure => exact ⟨world.events, rfl⟩
      | ok document =>
          obtain ⟨events, hschemas, _⟩ := runIn_schemas file document world
          exact ⟨events, hschemas⟩

/-- The declared containers come in name order. -/
theorem pairwise_declared {world : World} {file : Path} {schemas : SchemaSet}
    (hdeclared : declared world file = .ok schemas) :
    schemas.containers.Pairwise fun first second => first.name < second.name := by
  obtain ⟨text, _, hdeclared⟩ := bind_eq_ok_iff.mp hdeclared
  obtain ⟨document, _, hdeclared⟩ := bind_eq_ok_iff.mp hdeclared
  obtain ⟨declarations, hdocument, rfl⟩ := map_eq_ok_iff.mp hdeclared
  exact SchemaSet.pairwise_ofDeclarations (mapError_eq_ok_iff.mp hdocument)

/-- A document that declares members gives the set that sorts them out; so does any
other one that declares the same members, whatever their order and whatever else it
holds.  A document that declares none fails. -/
theorem schemas_sortsOut (document : Json) :
    (∀ members, Declaration.Declares document members →
      ∃ set : SchemaSet, set.SortsOut members ∧
        ∀ other others, Declaration.Declares other others → Json.SameMembers members others →
          ∀ file world, ∃ events,
            Action.runIn (schemas file other) world =
              (.ok set, { world with events := events })) ∧
    ((¬∃ members, Declaration.Declares document members) →
      ∀ file world, Action.runIn (schemas file document) world =
        (.error (.configurationInvalid file .noContainers), world)) := by
  constructor
  · intro members _
    refine ⟨_, SchemaSet.sortsOut_sortMembers members, ?_⟩
    intro other others hother hsame file world
    obtain ⟨events, hschemas, _⟩ := runIn_schemas file other world
    rw [Declaration.ofDocument_of_declares hother,
      ← Declaration.sortMembers_eq_of_sameMembers hsame] at hschemas
    exact ⟨events, hschemas⟩
  · intro hnone file world
    have hdocument := Declaration.ofDocument_of_not_declares hnone
    obtain ⟨events, hschemas, hevents⟩ := runIn_schemas file document world
    rw [hdocument, hevents hdocument] at hschemas
    exact hschemas

/-- Employees have a card and jobs have none. -/
def staff : List (String × Json) :=
  [("job", .object [("filter", .null)]),
    ("employee", .object [("card", .object [("keyfield", .string "number"),
      ("fields", .array [.string "number", .string "name"])])])]

/-- A document with the given members at their place. -/
def declaring (members : List (String × Json)) : Json :=
  .object [("Maconomy", .object [("containers", .object members)])]

/-- The other order of employees and jobs gives the same set, and an array in the place
of the members fails. -/
theorem schemas_sortsOut_staff :
    (∃ set : SchemaSet, set.SortsOut staff ∧ ∀ file world, ∃ events,
      Action.runIn (schemas file (declaring staff.reverse)) world =
        (.ok set, { world with events := events })) ∧
    ∀ file world, Action.runIn (schemas file (.object [("Maconomy", .object
        [("containers", .array [])])])) world =
      (.error (.configurationInvalid file .noContainers), world) := by
  have hsame : Json.SameMembers staff staff.reverse :=
    Json.sameMembers_of_perm (by decide) (List.reverse_perm staff).symm
  constructor
  · obtain ⟨set, hset, hrun⟩ :=
      (schemas_sortsOut (declaring staff)).1 staff ⟨_, rfl, rfl⟩
    exact ⟨set, hset, hrun (declaring staff.reverse) staff.reverse ⟨_, rfl, rfl⟩ hsame⟩
  · refine (schemas_sortsOut _).2 ?_
    rintro ⟨members, product, hproduct, hcontainers⟩
    cases hproduct
    cases hcontainers

end Configuration

end TypedContainers
