/-
# CatalogReplica.Proofs.Settings.Environment -- what the environment decides

Each of the seven variables decides one field of the settings, whatever the others say, and a
field whose variable is not set has its default (`ofEnvironment_eq_foldr`).

The domains are a list with commas. A text names a list of domains when it consists of the names
in order, with any white space around each and with blank items between them (`Names`), and such
a text is read as exactly that list (`ofCommas_eq_iff`). So nothing that is read is empty, has a
comma or has white space at either end, and what is read is found again in the joined names.
-/
import CatalogReplica.Settings.Environment
import Mathlib.Data.List.Forall2
import Mathlib.Data.List.ReduceOption
import Mathlib.Data.List.TakeWhile

namespace CatalogReplica

/-! ## White space at the ends -/

/-- White space and nothing else. -/
def AllBlank (w : List Char) : Prop := ∀ c ∈ w, isBlank c = true

/-- There is no white space at either end. -/
structure IsTrimmed (cs : List Char) : Prop where
  head : ∀ c ∈ cs.head?, isBlank c = false
  last : ∀ c ∈ cs.getLast?, isBlank c = false

-- the characters are finitely many, and a search for the instance may decide over all of them
instance (w : List Char) : Decidable (AllBlank w) :=
  List.decidableBAll (fun c => isBlank c = true) w

instance (cs : List Char) : Decidable (IsTrimmed cs) :=
  have : Decidable (∀ c ∈ cs.head?, isBlank c = false) :=
    Option.decidableForallMem cs.head?
  have : Decidable (∀ c ∈ cs.getLast?, isBlank c = false) :=
    Option.decidableForallMem cs.getLast?
  decidable_of_iff ((∀ c ∈ cs.head?, isBlank c = false) ∧ ∀ c ∈ cs.getLast?, isBlank c = false)
    ⟨fun ⟨h, h'⟩ => ⟨h, h'⟩, fun ⟨h, h'⟩ => ⟨h, h'⟩⟩

theorem AllBlank.dropBlanks_append {w : List Char} (hw : AllBlank w) (cs : List Char) :
    dropBlanks (w ++ cs) = dropBlanks cs :=
  List.dropWhile_append_of_pos hw

theorem AllBlank.not_mem_comma {w : List Char} (hw : AllBlank w) : ',' ∉ w := by
  intro h
  exact absurd (hw ',' h) (by decide)

/-- A text is white space, then what does not begin with any. -/
theorem exists_of_dropBlanks (cs : List Char) :
    ∃ w, AllBlank w ∧ cs = w ++ dropBlanks cs ∧ ∀ c ∈ (dropBlanks cs).head?, isBlank c = false := by
  refine ⟨cs.takeWhile isBlank, fun c hc => List.mem_takeWhile_imp hc, ?_, fun c hc => ?_⟩
  · exact (List.takeWhile_append_dropWhile).symm
  · have h := List.head?_dropWhile_not isBlank cs
    rw [dropBlanks] at hc
    rwa [Option.mem_def.mp hc] at h

theorem dropBlanks_of_head {cs : List Char} (h : ∀ c ∈ cs.head?, isBlank c = false) :
    dropBlanks cs = cs := by
  cases cs with
  | nil => rfl
  | cons c cs => exact dropBlanks_cons_of_not (h c rfl) cs

/-- White space around a trimmed text is taken off. -/
theorem IsTrimmed.trimBlanks_append {cs w w' : List Char} (h : IsTrimmed cs) (hw : AllBlank w)
    (hw' : AllBlank w') : trimBlanks (w ++ cs ++ w') = cs := by
  have hreverse : AllBlank w'.reverse := fun c hc => hw' c (List.mem_reverse.mp hc)
  cases cs with
  | nil =>
    have hdrop : dropBlanks (w ++ [] ++ w') = [] := by
      rw [List.append_nil, hw.dropBlanks_append, ← List.append_nil w', hw'.dropBlanks_append]
      rfl
    rw [trimBlanks, hdrop]
    rfl
  | cons c cs =>
    have hfront : dropBlanks (w ++ c :: cs ++ w') = c :: cs ++ w' := by
      rw [List.append_assoc, hw.dropBlanks_append]
      exact dropBlanks_of_head h.head
    have hback : dropBlanks (c :: cs ++ w').reverse = (c :: cs).reverse := by
      rw [List.reverse_append, hreverse.dropBlanks_append]
      exact dropBlanks_of_head (by rw [List.head?_reverse]; exact h.last)
    show (dropBlanks (dropBlanks (w ++ c :: cs ++ w')).reverse).reverse = c :: cs
    rw [hfront, hback, List.reverse_reverse]

/-- A text is a trimmed one with white space around it. -/
theorem exists_of_trimBlanks (cs : List Char) :
    ∃ w w', AllBlank w ∧ AllBlank w' ∧ cs = w ++ trimBlanks cs ++ w' ∧
      IsTrimmed (trimBlanks cs) := by
  obtain ⟨w, hw, hfront, hhead⟩ := exists_of_dropBlanks cs
  obtain ⟨w', hw', hback, hlast⟩ := exists_of_dropBlanks (dropBlanks cs).reverse
  have hparts : dropBlanks cs = trimBlanks cs ++ w'.reverse := by
    have h := congrArg List.reverse hback
    rwa [List.reverse_reverse, List.reverse_append] at h
  refine ⟨w, w'.reverse, hw, fun c hc => hw' c (List.mem_reverse.mp hc), ?_, ?_, ?_⟩
  · rw [List.append_assoc, ← hparts]
    exact hfront
  · intro c hc
    refine hhead c ?_
    rw [hparts, List.head?_append, Option.mem_def.mp hc]
    rfl
  · intro c hc
    refine hlast c ?_
    rwa [trimBlanks, List.getLast?_reverse] at hc

/-! ## Lists of names -/

namespace Domain

/-- The name of a domain may stand in a list: it is not empty, has no comma, and no white space
at either end. -/
structure IsListable (d : Domain) : Prop where
  ne_empty : d.name ≠ ""
  no_comma : ',' ∉ d.name.toList
  trimmed : IsTrimmed d.name.toList

instance (d : Domain) : Decidable d.IsListable :=
  decidable_of_iff (d.name ≠ "" ∧ ',' ∉ d.name.toList ∧ IsTrimmed d.name.toList)
    ⟨fun ⟨h, h', h''⟩ => ⟨h, h', h''⟩, fun ⟨h, h', h''⟩ => ⟨h, h', h''⟩⟩

/-- What an item of a list names: nothing, or a domain, with white space around its name. -/
inductive Item : Option Domain → List Char → Prop
  | blank {w : List Char} (hw : AllBlank w) : Item none w
  | name {d : Domain} {w w' : List Char} (hd : d.IsListable) (hw : AllBlank w)
      (hw' : AllBlank w') : Item (some d) (w ++ d.name.toList ++ w')

/-- The text consists of items with commas between them, which name these domains in order. -/
def Names (ds : List Domain) (text : String) : Prop :=
  ∃ items parts, List.Forall₂ Item items parts ∧ items.reduceOption = ds ∧
    text.toList = [','].intercalate parts

/-- The names of domains with commas between them. -/
def joined (ds : List Domain) : String := String.intercalate "," (ds.map name)

/-- What the part between two commas is read as. -/
def ofPart? (cs : List Char) : Option Domain :=
  if (trimBlanks cs).isEmpty then none else some ⟨String.ofList (trimBlanks cs)⟩

theorem splitCommas_eq_splitOn (cs : List Char) : splitCommas cs = cs.splitOn ',' := by
  induction cs with
  | nil => rfl
  | cons c cs ih =>
    rw [splitCommas, ih, List.splitOn_eq_splitOnP, List.splitOn_eq_splitOnP,
      List.splitOnP_cons_eq_if_modifyHead]
    split
    · rfl
    · cases hparts : cs.splitOnP (· == ',') with
      | nil => exact absurd hparts (List.splitOnP_ne_nil _ _)
      | cons part parts => rfl

/-- What is split at commas has none. -/
theorem not_mem_of_mem_splitOn {cs part : List Char} (h : part ∈ cs.splitOn ',') :
    ',' ∉ part := by
  rw [← splitCommas_eq_splitOn] at h
  induction cs generalizing part with
  | nil =>
    obtain rfl := List.mem_singleton.mp h
    exact List.not_mem_nil
  | cons c cs ih =>
    rw [splitCommas] at h
    by_cases hc : c = ','
    · simp only [hc, beq_self_eq_true, if_true, List.mem_cons] at h
      rcases h with rfl | h
      · exact List.not_mem_nil
      · exact ih h
    · simp only [beq_iff_eq, hc, if_false] at h
      cases hparts : splitCommas cs with
      | nil =>
        rw [hparts, List.mem_singleton] at h
        rw [h, List.mem_singleton]
        exact Ne.symm hc
      | cons first parts =>
        rw [hparts, List.mem_cons] at h
        rcases h with rfl | h
        · have hfirst := ih (hparts ▸ List.mem_cons_self)
          simp [hfirst, Ne.symm hc]
        · exact ih (hparts ▸ List.mem_cons_of_mem first h)

theorem ofCommas_eq_filterMap (text : String) :
    ofCommas text = (text.toList.splitOn ',').filterMap ofPart? := by
  rw [ofCommas, splitCommas_eq_splitOn]
  induction text.toList.splitOn ',' with
  | nil => rfl
  | cons part parts ih =>
    by_cases hblank : trimBlanks part = []
    · simpa [ofPart?, hblank] using ih
    · simpa [ofPart?, hblank] using ih

/-- A part without a comma is an item for what it is read as, and for nothing else. -/
theorem item_iff {item : Option Domain} {part : List Char} :
    Item item part ↔ ofPart? part = item ∧ ',' ∉ part := by
  constructor
  · intro h
    cases h with
    | blank hw =>
      have htrim : trimBlanks (part ++ [] ++ []) = [] :=
        IsTrimmed.trimBlanks_append ⟨nofun, nofun⟩ hw nofun
      rw [List.append_nil, List.append_nil] at htrim
      exact ⟨by simp [ofPart?, htrim], hw.not_mem_comma⟩
    | @name d w w' hd hw hw' =>
      have hne : d.name.toList ≠ [] := by simpa using hd.ne_empty
      refine ⟨?_, ?_⟩
      · rw [ofPart?, hd.trimmed.trimBlanks_append hw hw']
        simp [hne]
      · simp [hw.not_mem_comma, hw'.not_mem_comma, hd.no_comma]
  · rintro ⟨rfl, hcomma⟩
    obtain ⟨w, w', hw, hw', hpart, htrimmed⟩ := exists_of_trimBlanks part
    by_cases hblank : trimBlanks part = []
    · have hall : AllBlank part := by
        rw [hpart, hblank, List.append_nil]
        exact fun c hc => (List.mem_append.mp hc).elim (hw c) (hw' c)
      simpa [ofPart?, hblank] using Item.blank hall
    · have hname : (Domain.mk (String.ofList (trimBlanks part))).IsListable :=
        { ne_empty := by simpa using hblank
          no_comma := fun h => hcomma (by
            rw [hpart]
            exact List.mem_append_left _ (List.mem_append_right _ (by simpa using h)))
          trimmed := by simpa using htrimmed }
      have hitem := Item.name hname hw hw'
      rw [String.toList_ofList, ← hpart] at hitem
      simpa [ofPart?, hblank] using hitem

/-- The items of a list are what its parts are read as, and no part has a comma. -/
theorem eq_map_of_items {items : List (Option Domain)} {parts : List (List Char)}
    (h : List.Forall₂ Item items parts) :
    items = parts.map ofPart? ∧ ∀ part ∈ parts, ',' ∉ part := by
  induction h with
  | nil => exact ⟨rfl, nofun⟩
  | cons hitem _ ih =>
    obtain ⟨rfl, hcomma⟩ := item_iff.mp hitem
    exact ⟨congrArg _ ih.1, List.forall_mem_cons.mpr ⟨hcomma, ih.2⟩⟩

theorem reduceOption_map_ofPart (parts : List (List Char)) :
    (parts.map ofPart?).reduceOption = parts.filterMap ofPart? := by
  rw [List.reduceOption, List.filterMap_map]
  rfl

/-- A text is read as the domains that it names, and it names no others. -/
theorem ofCommas_eq_iff {ds : List Domain} {text : String} :
    ofCommas text = ds ↔ Names ds text := by
  rw [ofCommas_eq_filterMap]
  constructor
  · rintro rfl
    have hitem : ∀ part ∈ text.toList.splitOn ',', Item (ofPart? part) part := by
      intro part hpart
      exact item_iff.mpr ⟨rfl, not_mem_of_mem_splitOn hpart⟩
    refine ⟨(text.toList.splitOn ',').map ofPart?, text.toList.splitOn ',', ?_,
      reduceOption_map_ofPart _, (List.intercalate_splitOn ',').symm⟩
    exact List.forall₂_map_left_iff.mpr (List.forall₂_same.mpr hitem)
  · rintro ⟨items, parts, hitems, rfl, htext⟩
    obtain ⟨rfl, hcomma⟩ := eq_map_of_items hitems
    rw [htext, reduceOption_map_ofPart]
    cases parts with
    | nil => rfl
    | cons part parts => rw [List.splitOn_intercalate ',' hcomma (List.cons_ne_nil _ _)]

/-- What a text is read as may stand in a list. -/
theorem Names.isListable {ds : List Domain} {text : String} (h : Names ds text) :
    ∀ d ∈ ds, d.IsListable := by
  obtain ⟨items, parts, hitems, rfl, -⟩ := h
  intro d hd
  obtain ⟨rfl, hcomma⟩ := eq_map_of_items hitems
  obtain ⟨part, hpart, hread⟩ := List.mem_map.mp (List.reduceOption_mem_iff.mp hd)
  cases item_iff.mpr ⟨hread, hcomma part hpart⟩ with
  | name hname => exact hname

/-- Joined names name the domains. -/
theorem names_joined {ds : List Domain} (h : ∀ d ∈ ds, d.IsListable) : Names ds (joined ds) := by
  refine ⟨ds.map some, ds.map (·.name.toList), ?_, ?_, ?_⟩
  · refine List.forall₂_map_left_iff.mpr (List.forall₂_map_right_iff.mpr ?_)
    refine List.forall₂_same.mpr fun d hd => ?_
    have hitem : Item (some d) ([] ++ d.name.toList ++ []) := .name (h d hd) nofun nofun
    rwa [List.nil_append, List.append_nil] at hitem
  · rw [List.reduceOption, List.filterMap_map]
    exact List.filterMap_some
  · rw [joined, String.toList_intercalate, List.map_map]
    rfl

end Domain

namespace Settings

/-! ## Variables -/

/-- A variable that settings are taken from. -/
inductive Variable where
  | url
  | clusterId
  | subject
  | nodeId
  | ackWait
  | reconnectInterval
  | domains
  deriving DecidableEq

/-- The name of a variable. -/
def Variable.name : Variable → String
  | url => "EVENT_QUEUE_URL"
  | clusterId => "EVENT_QUEUE_CLUSTER_ID"
  | subject => "EVENT_QUEUE_SUBJECT"
  | nodeId => "EVENT_QUEUE_NODE_ID"
  | ackWait => "EVENT_QUEUE_ACK_WAIT"
  | reconnectInterval => "EVENT_QUEUE_RECONNECT_INTERVAL"
  | domains => "REPLICATOR_OPERATION_TYPES"

/-- The settings with the field of a variable set to what a text says. -/
def Variable.put (text : String) (s : Settings) : Variable → Settings
  | url => { s with queue := { s.queue with url := text } }
  | clusterId => { s with queue := { s.queue with clusterId := text } }
  | subject => { s with queue := { s.queue with subject := text } }
  | nodeId => { s with queue := { s.queue with nodeId := text } }
  | ackWait => { s with queue := { s.queue with ackWait := text } }
  | reconnectInterval => { s with queue := { s.queue with reconnectInterval := text } }
  | domains => { s with replicator := ⟨Domain.ofCommas text⟩ }

/-- The settings with the fields of some variables set, one after another. -/
def putAll (texts : Variable → String) (vs : List Variable) (s : Settings) : Settings :=
  vs.foldr (fun v s => v.put (texts v) s) s

/-- Setting the fields of some variables decides these fields, in whatever order, and no
others. -/
theorem putAll_eq (texts : Variable → String) (vs : List Variable) (s : Settings) :
    putAll texts vs s =
      { queue := { s.queue with
          url := if .url ∈ vs then texts .url else s.queue.url
          clusterId := if .clusterId ∈ vs then texts .clusterId else s.queue.clusterId
          subject := if .subject ∈ vs then texts .subject else s.queue.subject
          nodeId := if .nodeId ∈ vs then texts .nodeId else s.queue.nodeId
          ackWait := if .ackWait ∈ vs then texts .ackWait else s.queue.ackWait
          reconnectInterval :=
            if .reconnectInterval ∈ vs then texts .reconnectInterval
            else s.queue.reconnectInterval }
        replicator :=
          if .domains ∈ vs then ⟨Domain.ofCommas (texts .domains)⟩ else s.replicator } := by
  induction vs with
  | nil => rfl
  | cons v vs ih =>
    show v.put (texts v) (putAll texts vs s) = _
    rw [ih]
    cases v <;> simp [Variable.put]

/-- The settings are the default ones with the fields of the variables set that are set. -/
theorem ofEnvironment_eq_putAll (generated : String) (env : Environment) {vs : List Variable}
    (hvs : ∀ v, v ∈ vs ↔ (env v.name).isSome) :
    ofEnvironment generated env =
      putAll (fun v => (env v.name).getD "") vs (ofNodeId generated) := by
  have hfield : ∀ (v : Variable) (default : String),
      (env v.name).getD default = if v ∈ vs then (env v.name).getD "" else default := by
    intro v default
    rw [if_congr (hvs v) rfl rfl]
    cases env v.name <;> rfl
  have hreplicator : (ofEnvironment generated env).replicator =
      if .domains ∈ vs then ⟨Domain.ofCommas ((env Variable.domains.name).getD "")⟩
      else (ofNodeId generated).replicator := by
    rw [if_congr (hvs .domains) rfl rfl, ofEnvironment, Variable.name]
    cases env "REPLICATOR_OPERATION_TYPES" <;> rfl
  rw [putAll_eq, ← hreplicator]
  simp only [← hfield]
  rfl

/-- The environment decides the settings field by field. Whichever variables are set, in
whatever order they are looked at, and whatever else is set, their fields are what they say and
all others have their defaults. The domains that a text names may stand in a list, joined with
commas they are read again, and they are the domains `ds` exactly if the text has the names of
`ds` in order, with any white space around them and any blank items between them. -/
theorem environment_decides_fields (generated : String) (env : Environment) :
    (∀ vs : List Variable, (∀ v, v ∈ vs ↔ (env v.name).isSome) →
      ofEnvironment generated env =
        putAll (fun v => (env v.name).getD "") vs (ofNodeId generated)) ∧
    ∀ text, env Variable.domains.name = some text →
      (∀ d ∈ (ofEnvironment generated env).replicator.domains, d.IsListable) ∧
      Domain.ofCommas (Domain.joined (ofEnvironment generated env).replicator.domains) =
        (ofEnvironment generated env).replicator.domains ∧
      ∀ ds, (ofEnvironment generated env).replicator.domains = ds ↔ Domain.Names ds text := by
  refine ⟨fun vs hvs => ofEnvironment_eq_putAll generated env hvs, fun text htext => ?_⟩
  have hdomains : (ofEnvironment generated env).replicator.domains = Domain.ofCommas text := by
    rw [ofEnvironment, show env "REPLICATOR_OPERATION_TYPES" = some text from htext]
  have hlistable := (Domain.ofCommas_eq_iff.mp hdomains.symm).isListable
  refine ⟨hlistable, ?_, fun ds => ?_⟩
  · exact Domain.ofCommas_eq_iff.mpr (Domain.names_joined hlistable)
  · rw [hdomains]
    exact Domain.ofCommas_eq_iff

/-- Two variables are set, one of them to a list with blank items, wide white space and a name
that comes again. -/
theorem two_variables_decide :
    let env : Environment := fun name =>
      if name = "EVENT_QUEUE_SUBJECT" then some "changes"
      else if name = "REPLICATOR_OPERATION_TYPES" then some ",\u3000b ,, a\t,b, "
      else if name = "EVENT_QUEUE_BLOCK_TIMEOUT" then some "9s"
      else none
    ofEnvironment "n1" env =
      { queue := { nodeId := "n1", subject := "changes" }
        replicator := ⟨[⟨"b"⟩, ⟨"a"⟩, ⟨"b"⟩]⟩ } := by
  intro env
  have hset : ∀ v : Variable, v ∈ [Variable.domains, .subject] ↔ (env v.name).isSome := by
    intro v
    cases v <;> decide
  have hnames : Domain.Names [⟨"b"⟩, ⟨"a"⟩, ⟨"b"⟩] ",\u3000b ,, a\t,b, " := by
    refine ⟨[none, some ⟨"b"⟩, none, some ⟨"a"⟩, some ⟨"b"⟩, none],
      [[], ['\u3000', 'b', ' '], [], [' ', 'a', '\t'], ['b'], [' ']], ?_, rfl, by decide⟩
    refine .cons (.blank (by decide)) (.cons ?_ (.cons (.blank (by decide)) (.cons ?_
      (.cons ?_ (.cons (.blank (by decide)) .nil)))))
    · exact Domain.Item.name (w := ['\u3000']) (by decide) (by decide)
        (show AllBlank [' '] by decide)
    · exact Domain.Item.name (w := [' ']) (by decide) (by decide) (show AllBlank ['\t'] by decide)
    · exact Domain.Item.name (w := []) (by decide) (by decide) (show AllBlank [] by decide)
  obtain ⟨hfields, hdomains⟩ := environment_decides_fields "n1" env
  have hread := ((hdomains _ rfl).2.2 _).mpr hnames
  calc ofEnvironment "n1" env
      = putAll (fun v => (env v.name).getD "") [.domains, .subject] (ofNodeId "n1") :=
        hfields _ hset
    _ = { queue := { nodeId := "n1", subject := "changes" }
          replicator := ⟨(ofEnvironment "n1" env).replicator.domains⟩ } := rfl
    _ = _ := by rw [hread]

end Settings
end CatalogReplica
