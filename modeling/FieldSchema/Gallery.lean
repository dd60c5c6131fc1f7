import FieldSchema.Schema.Construct
import FieldSchema.Schema.Equality

/-! Ready-made schemas for the responses of a game. The fixed ones are listed under a name; the
others are assembled from the current scene, and fail where the scene cannot be described. -/
namespace FieldSchema.Gallery

abbrev Built := Except SchemaError Field

def integer (name : String) (low high : Int) : Built := Construct.integer name .null low high

def string (name : String) (low high : Int) (hint : Datum := .null) : Built :=
  Construct.string name hint low high

def template (name text : String) (low high : Int) (hint : Datum := .null) : Built :=
  Construct.template name hint text low high

def boolean (name : String) : Built := Construct.boolean name .null

def constant (name : String) (value : Datum) : Built := Construct.constant name .null value

def choice (name : String) (options : List Datum) : Built := Construct.choice name .null options

def array (name : String) (element : Field) (low high : Int) : Built :=
  Construct.array name .null element low high

def object (name : String) (members : List Field) : Built :=
  Construct.object name .null (members.map .field)

def variant (name : String) (alternatives : List Field) : Built :=
  Construct.variant name .null (alternatives.map .field)

/-- An event of a scene: a fight, a talk or a find, each with content of its own shape. -/
def sceneEvent : Built := do
  object "SceneEvent" [
    ← choice "type" ["combat", "dialogue", "exploration"],
    ← variant "content" [
      ← object "combat" [
        ← integer "enemyLevel" 1 999,
        ← choice "enemyType" ["goblin", "dragon", "bandit"]],
      ← object "dialogue" [
        ← string "speaker" 3 20,
        ← template "text" "says <generated>" 10 100],
      ← object "exploration" [
        ← string "location" 5 30,
        ← string "description" 20 200,
        ← boolean "hasLoot"]]]

def character : Built := do
  object "character" [
    ← string "name" 3 20,
    ← integer "age" 0 120,
    ← choice "class" ["warrior", "mage", "rogue", "archer"],
    ← object "stats" [
      ← integer "strength" 1 20,
      ← integer "dexterity" 1 20,
      ← integer "intelligence" 1 20,
      ← integer "constitution" 1 20],
    ← array "skills" (← string "skill" 3 15) 0 5,
    ← Construct.optional "backstory" .null (← string "backstory" 50 500),
    ← integer "health" 0 999]

def quest : Built := do
  object "Quest" [
    ← string "title" 5 50,
    ← string "description" 20 300,
    ← choice "difficulty" ["easy", "medium", "hard", "legendary"],
    ← array "objectives" (← object "objective" [
      ← string "description" 10 100,
      ← boolean "completed",
      ← Construct.optional "reward" .null (← integer "gold" 0 9999)]) 1 5,
    ← variant "questType" [
      ← object "killQuest" [
        ← string "targetType" 3 20,
        ← integer "targetCount" 1 99],
      ← object "fetchQuest" [
        ← string "itemName" 3 30,
        ← integer "quantity" 1 99,
        ← string "location" 5 40],
      ← object "escortQuest" [
        ← string "npcName" 3 25,
        ← string "destination" 5 40,
        ← boolean "npcSurvived"]]]

def one : Binary64 := .ofDecimal false 1 0

/-- The configuration of a server, with fixed numbers beside ranged ones. -/
def serverConfig : Built := do
  object "ServerConfig" [
    ← constant "exactPort" (.int 8080),
    ← constant "exactRatio" (.real one),
    ← constant "protocol" "http",
    ← Construct.real "loadFactor" .null (.real (.finite (.zero false))) (.real one),
    ← integer "timeoutSeconds" 1 300,
    ← choice "retries" [.int 0, .int 1, .int 3, .int 5]]

def observation : Built := do
  object "ObservationResponse" [
    ← string "narration_text" 50 600
      "A short description of what the avatar observes in the environment"]

def elements : Datum → List Datum
  | .list items => items
  | .text s => s.toList.map fun c => .text (String.singleton c)
  | _ => []

/-- What the avatar observes, opening on the first keyword if there is one. -/
def observationWithIntro (keywords : Datum) : Built :=
  match elements keywords with
  | [] => observation
  | first :: _ => do
    object "ObservationResponse" [
      ← template "narration_text" s!"You notice {first.plain} <generated>" 50 550]

def thinking (skills outcomes : Datum) : Built := do
  object "ThinkingResponse" [
    ← string "reasoning_text" 50 800
      "A short reasoning process the avatar used to decide on actions",
    ← array "actions" (← object "Action" [
      ← choice "action_skill" [skills],
      ← choice "outcome" [outcomes],
      ← template "action_description" "try to <generated>" 10 400
        "Describe in few words the action the avatar will take"]) 2 5]

def outcomeNarration : Built := do
  object "OutcomeNarration" [
    ← string "narration" 50 800
      "A short narration text describing the outcome of the action"]

def isEmpty : Datum → Bool
  | .null | .bool false => true
  | .int n => n == 0
  | .real x => Numeric.same x (0 : Int)
  | .text s => s == ""
  | .list items => items.isEmpty
  | _ => false

def stateChanges : List (Datum × Datum) → Except SchemaError (List Field)
  | [] => return []
  | (category, states) :: rest =>
    if isEmpty states then stateChanges rest
    else do
      let change ← object s!"change_{category.plain}" [
        ← constant "category" category,
        ← choice "new_state" [states]]
      return change :: (← stateChanges rest)

/-- Sets the states of a category: in its place if it is there, at the end otherwise. -/
def putEntry (category states : Datum) : List (Datum × Datum) → List (Datum × Datum)
  | [] => [(category, states)]
  | (c, old) :: rest =>
    if c.same category then (c, states) :: rest else (c, old) :: putEntry category states rest

/-- Entries with each category once: in its first place, with its last states. -/
def mergeEntries (entries : List (Datum × Datum)) : List (Datum × Datum) :=
  entries.foldl (fun merged (category, states) => putEntry category states merged) []

/-- The outcome of an action: the states that the categories of the scene can change to, the places
the avatar may move to and the items the action may yield. -/
def actionOutcome (categories : List (Datum × Datum)) (sublocations items : Datum) : Built := do
  let noChange ← object "no_change" [
    ← constant "category" "none",
    ← constant "new_state" "none"]
  let changes ← stateChanges (mergeEntries categories)
  let items := match Datum.distinct (elements items) with
    | [] => [.text "none"]
    | items => items
  object "ActionOutcome" [
    ← boolean "success",
    ← string "narrative" 20 300,
    ← variant "state_changes" (noChange :: changes),
    ← choice "new_sublocation" [.list (Datum.distinct (elements sublocations ++ [.text "none"]))],
    ← array "items_gained" (← choice "item" [.list items]) 0 3,
    ← boolean "ends_interaction"]

/-- The schemas without arguments, by the names under which they are exported. -/
def catalogue : List (String × Built) := [
  ("SceneEvent", sceneEvent),
  ("Character", character),
  ("Quest", quest),
  ("ServerConfig", serverConfig),
  ("Observation", observation),
  ("OutcomeNarration", outcomeNarration)]

end FieldSchema.Gallery
