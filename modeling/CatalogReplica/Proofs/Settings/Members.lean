/-
# CatalogReplica.Proofs.Settings.Members -- settings from any selection of members

The settings of a node are read from whichever of their members an object has. Take the members
as they are written, leave out any of them, put the rest in any order and any members with
foreign keys between them (`Remains`): what is read are the same settings, with the default in
each place whose member is missing (`ofOctets_of_selection`). That nothing is lost when settings
are written and read is the case in which no member is missing.
-/
import CatalogReplica.Proofs.Json.Fields
import CatalogReplica.Proofs.Json.Writing
import CatalogReplica.Proofs.Wire.Payloads
import CatalogReplica.Settings.Json

namespace CatalogReplica

namespace Json

variable {β : Type}

/-! ## A selection of members -/

/-- What is left of the members `ws` of an object: those with a kept key, in any order, and
members with foreign keys between them. -/
def Remains (kept : String → Bool) (ws ms : List (String × Octets)) : Prop :=
  (ms.filter fun m => (ws.map (·.1)).contains m.1).Perm (ws.filter fun m => kept m.1)

instance (kept : String → Bool) (ws ms : List (String × Octets)) :
    Decidable (Remains kept ws ms) :=
  inferInstanceAs (Decidable (List.Perm _ _))

section Remains

variable {kept : String → Bool} {ws ms : List (String × Octets)} {key : String} {v : Octets}

/-- Under a known key stands its one value, if the key is kept, and else nothing. -/
theorem Remains.valuesOf_eq (h : Remains kept ws ms) (hkey : valuesOf key ws = [v]) :
    valuesOf key ms = if kept key then [v] else [] := by
  have hknown : (ws.map (·.1)).contains key = true := by
    have hv : v ∈ valuesOf key ws := hkey ▸ List.mem_cons_self
    obtain ⟨m, hm, -⟩ := List.mem_map.mp hv
    obtain ⟨hws, hm⟩ := List.mem_filter.mp hm
    exact List.contains_iff_mem.mpr (beq_iff_eq.mp hm ▸ List.mem_map_of_mem hws)
  have hperm : (valuesOf key (ms.filter fun m => (ws.map (·.1)).contains m.1)).Perm
      (valuesOf key (ws.filter fun m => kept m.1)) :=
    (h.filter _).map _
  rw [valuesOf_filter (ws.map (·.1)).contains, valuesOf_filter kept, if_pos hknown, hkey] at hperm
  cases hk : kept key with
  | true =>
    rw [hk] at hperm
    exact List.perm_singleton.mp hperm
  | false =>
    rw [hk] at hperm
    exact List.perm_nil.mp hperm

/-- A field is what its value stands for, if its key is kept, and else it has its default. -/
theorem Remains.holds {P : β → Octets → Prop} {b : β} (h : Remains kept ws ms)
    (hkey : valuesOf key ws = [v]) (hv : P b v) (default : β) :
    Holds P default (valuesOf key ms) (if kept key then b else default) := by
  rw [h.valuesOf_eq hkey]
  cases kept key with
  | true => exact .inr ⟨v, rfl, hv⟩
  | false => exact .inl ⟨rfl, rfl⟩

/-- Nothing is left out and nothing put in. -/
theorem remains_self (ws : List (String × Octets)) : Remains (fun _ => true) ws ws := by
  have hknown : ws.filter (fun m => (ws.map (·.1)).contains m.1) = ws :=
    List.filter_eq_self.mpr fun m hm => List.contains_iff_mem.mpr (List.mem_map_of_mem hm)
  rw [Remains, hknown, List.filter_true]

end Remains
end Json

open Json

/-! ## The change queue -/

namespace QueueSettings

/-- A field of the settings that is a text. -/
inductive TextField where
  | url
  | clusterId
  | nodeId
  | subject
  | ackWait
  | reconnectInterval
  | blockTimeout
  | connectionTimeout

namespace TextField

/-- The key of its member. -/
def key : TextField → String
  | url => "url"
  | clusterId => "cluster_id"
  | nodeId => "node_id"
  | subject => "subject"
  | ackWait => "ack_wait"
  | reconnectInterval => "reconnect_interval"
  | blockTimeout => "block_timeout"
  | connectionTimeout => "connection_timeout"

/-- The field of given settings. -/
def of (s : QueueSettings) : TextField → String
  | url => s.url
  | clusterId => s.clusterId
  | nodeId => s.nodeId
  | subject => s.subject
  | ackWait => s.ackWait
  | reconnectInterval => s.reconnectInterval
  | blockTimeout => s.blockTimeout
  | connectionTimeout => s.connectionTimeout

/-- Where it is kept when it has been read. -/
def place (p : Parts) : TextField → Option String
  | url => p.url
  | clusterId => p.clusterId
  | nodeId => p.nodeId
  | subject => p.subject
  | ackWait => p.ackWait
  | reconnectInterval => p.reconnectInterval
  | blockTimeout => p.blockTimeout
  | connectionTimeout => p.connectionTimeout

end TextField

/-- Settings with equal fields are equal. -/
theorem eq_of_fields {s s' : QueueSettings} (htexts : ∀ t : TextField, t.of s = t.of s')
    (hwriteOnly : s.writeOnly = s'.writeOnly) : s = s' := by
  cases s
  cases s'
  simp only [mk.injEq]
  exact ⟨htexts .url, htexts .clusterId, htexts .nodeId, htexts .subject, htexts .ackWait,
    htexts .reconnectInterval, htexts .blockTimeout, htexts .connectionTimeout, hwriteOnly⟩

/-- The settings in which the fields with other keys than the kept ones have their defaults, the
node id being generated. -/
def keeping (generated : String) (kept : String → Bool) (s : QueueSettings) : QueueSettings :=
  let d : QueueSettings := { nodeId := generated }
  { url := if kept "url" then s.url else d.url
    clusterId := if kept "cluster_id" then s.clusterId else d.clusterId
    nodeId := if kept "node_id" then s.nodeId else d.nodeId
    subject := if kept "subject" then s.subject else d.subject
    ackWait := if kept "ack_wait" then s.ackWait else d.ackWait
    reconnectInterval :=
      if kept "reconnect_interval" then s.reconnectInterval else d.reconnectInterval
    blockTimeout := if kept "block_timeout" then s.blockTimeout else d.blockTimeout
    connectionTimeout :=
      if kept "connection_timeout" then s.connectionTimeout else d.connectionTimeout
    writeOnly := if kept "write_only" then s.writeOnly else d.writeOnly }

variable (generated : String)

/-- Every member is a text or a truth value. -/
theorem isRegular_shape : (shape generated).IsRegular := by
  intro m hm p
  simp only [shape, List.mem_cons, List.not_mem_nil, or_false] at hm
  rcases hm with rfl | rfl | rfl | rfl | rfl | rfl | rfl | rfl | rfl
  all_goals first
    | exact (Shape.takes_of (takes_text _) p).stands
    | exact (Shape.takes_of takes_bool p).stands

theorem TextField.field (t : TextField) : (shape generated).Field t.key t.place SpellsText := by
  cases t
  all_goals
    refine Shape.field_of (takes_text _) rfl (fun _ _ => rfl) ?_
    intro m hm
    simp only [shape, List.mem_cons, List.not_mem_nil, or_false] at hm
    rcases hm with rfl | rfl | rfl | rfl | rfl | rfl | rfl | rfl | rfl <;>
      first | exact .inl rfl | exact .inr (Shape.spares_of fun _ _ => rfl)

theorem field_writeOnly : (shape generated).Field "write_only" (·.writeOnly) SpellsBool := by
  refine Shape.field_of takes_bool rfl (fun _ _ => rfl) ?_
  intro m hm
  simp only [shape, List.mem_cons, List.not_mem_nil, or_false] at hm
  rcases hm with rfl | rfl | rfl | rfl | rfl | rfl | rfl | rfl | rfl <;>
    first | exact .inl rfl | exact .inr (Shape.spares_of fun _ _ => rfl)

/-- The keys that are known. -/
theorem key_cases {m : Member Parts} (h : m ∈ (shape generated).members) :
    (∃ t : TextField, m.key = t.key) ∨ m.key = "write_only" := by
  simp only [shape, List.mem_cons, List.not_mem_nil, or_false] at h
  rcases h with rfl | rfl | rfl | rfl | rfl | rfl | rfl | rfl | rfl
  · exact .inl ⟨.url, rfl⟩
  · exact .inl ⟨.clusterId, rfl⟩
  · exact .inl ⟨.nodeId, rfl⟩
  · exact .inl ⟨.subject, rfl⟩
  · exact .inl ⟨.ackWait, rfl⟩
  · exact .inl ⟨.reconnectInterval, rfl⟩
  · exact .inl ⟨.blockTimeout, rfl⟩
  · exact .inl ⟨.connectionTimeout, rfl⟩
  · exact .inr rfl

namespace TextField

theorem valuesOf_written (s : QueueSettings) (t : TextField) :
    valuesOf t.key (membersOf s.written) = [Octets.ofChars (stringChars (t.of s))] := by
  cases t <;> rfl

theorem of_settings (p : Parts) (t : TextField) :
    t.of (p.settings generated) = (t.place p).getD (t.of { nodeId := generated }) := by
  cases t <;> rfl

theorem of_keeping (kept : String → Bool) (s : QueueSettings) (t : TextField) :
    t.of (s.keeping generated kept) =
      if kept t.key then t.of s else t.of { nodeId := generated } := by
  cases t <;> rfl

end TextField

/-- A selection of the members spells the settings with the selected fields. -/
theorem spellsObject_keeping {s : QueueSettings} {kept : String → Bool}
    {ms : List (String × Octets)} {v : Octets} (hv : IsObject ms v)
    (h : Remains kept (membersOf s.written) ms) :
    (shape generated).SpellsObject (s.keeping generated kept) v := by
  have htexts : ∀ t : TextField, Holds SpellsText (t.of { nodeId := generated })
      (valuesOf t.key ms) (t.of (s.keeping generated kept)) := by
    intro t
    rw [t.of_keeping]
    exact h.holds (t.valuesOf_written s) (spellsText_written _) _
  have hwriteOnly : Holds SpellsBool false (valuesOf "write_only" ms)
      (s.keeping generated kept).writeOnly :=
    h.holds rfl (spellsBool_written s.writeOnly) false
  have hgathered : ∃ q, (shape generated).Gathered (shape generated).start ms q := by
    refine Shape.exists_gathered_start fun key member hfind => ?_
    obtain ⟨hm, rfl⟩ := Shape.mem_of_find hfind
    obtain ⟨t, ht⟩ | ht := key_cases generated hm
    · rw [ht]
      exact ⟨_, _, _, t.field generated, by cases t <;> rfl, (htexts t).exists_once⟩
    · rw [ht]
      exact ⟨_, _, _, field_writeOnly generated, rfl, hwriteOnly.exists_once⟩
  obtain ⟨q, hq⟩ := hgathered
  refine ⟨ms, q, hv, hq, rfl, eq_of_fields (fun t => ?_) ?_⟩
  · show t.of (q.settings generated) = _
    rw [t.of_settings]
    exact hq.getD_eq (t.field generated) (by cases t <;> rfl) (htexts t)
  · exact hq.getD_eq (field_writeOnly generated) rfl hwriteOnly

end QueueSettings

/-! ## The replicator -/

namespace ReplicatorSettings

/-- The settings in which the field has its default if its key is not kept. -/
def keeping (kept : String → Bool) (s : ReplicatorSettings) : ReplicatorSettings where
  domains := if kept "operation_types" then s.domains else [.catalogs]

/-- A list of domains, by their names. -/
abbrev SpellsDomains : List Domain → Octets → Prop := SpellsElements fun d => SpellsText d.name

theorem isRegular_shape : shape.IsRegular := by
  intro m hm p
  obtain rfl := List.mem_singleton.mp hm
  exact (Shape.takes_of (takes_list Change.takes_domain) p).stands

theorem field_domains : shape.Field "operation_types" (·.domains) SpellsDomains := by
  refine Shape.field_of (takes_list Change.takes_domain) rfl (fun _ _ => rfl) ?_
  intro m hm
  obtain rfl := List.mem_singleton.mp hm
  exact .inl rfl

theorem spellsDomains_written (ds : List Domain) :
    SpellsDomains ds (Octets.ofChars (listChars (ds.map fun d => stringChars d.name))) := by
  have hspells : ∀ d ∈ ds, SpellsText d.name (Octets.ofChars (stringChars d.name)) :=
    fun d _ => spellsText_written d.name
  refine ⟨_, isList_written ?_, ?_⟩
  · intro v hv
    obtain ⟨d, hd, rfl⟩ := List.mem_map.mp hv
    exact (hspells d hd).isValue
  · rw [List.map_map]
    exact List.forall₂_map_right_iff.mpr (List.forall₂_same.mpr hspells)

/-- A selection of the members spells the settings with the selected field. -/
theorem spellsObject_keeping {s : ReplicatorSettings} {kept : String → Bool}
    {ms : List (String × Octets)} {v : Octets} (hv : IsObject ms v)
    (h : Remains kept (membersOf s.written) ms) : shape.SpellsObject (s.keeping kept) v := by
  have hdomains : Holds SpellsDomains [.catalogs] (valuesOf "operation_types" ms)
      (s.keeping kept).domains :=
    h.holds rfl (spellsDomains_written s.domains) _
  have hgathered : ∃ q, shape.Gathered shape.start ms q := by
    refine Shape.exists_gathered_start fun key member hfind => ?_
    obtain ⟨hm, rfl⟩ := Shape.mem_of_find hfind
    obtain rfl := List.mem_singleton.mp hm
    exact ⟨_, _, _, field_domains, rfl, hdomains.exists_once⟩
  obtain ⟨q, hq⟩ := hgathered
  exact ⟨ms, q, hv, hq, rfl, congrArg mk (hq.getD_eq field_domains rfl hdomains)⟩

end ReplicatorSettings

/-! ## A node -/

namespace Settings

/-- Which members are kept: sections of the settings, and members of each section. -/
structure Selection where
  sections : String → Bool
  queue : String → Bool
  replicator : String → Bool

/-- The settings in which everything that is not selected has its default, the node id being
generated. -/
def keeping (generated : String) (kept : Selection) (s : Settings) : Settings where
  queue := if kept.sections "queue" then s.queue.keeping generated kept.queue
    else { nodeId := generated }
  replicator := if kept.sections "replicator" then s.replicator.keeping kept.replicator else {}

/-- The octets are an object with the selected members of the settings and of their sections, in
any order, with foreign members between them and white space around. -/
def IsSelected (s : Settings) (kept : Selection) (text : Octets) : Prop :=
  ∃ w v w' ms queue qs replicator rs, text = w ++ (v ++ w') ∧ IsBlank w ∧ IsBlank w' ∧
    IsObject ms v ∧
    Remains kept.sections [("queue", queue), ("replicator", replicator)] ms ∧
    IsObject qs queue ∧ Remains kept.queue (membersOf s.queue.written) qs ∧
    IsObject rs replicator ∧ Remains kept.replicator (membersOf s.replicator.written) rs

variable (generated : String)

/-- What the settings of the queue are read from. -/
abbrev SpellsQueue (q : QueueSettings) (v : Octets) : Prop :=
  (QueueSettings.shape generated).SpellsObject q v ∨ (QueueSettings.shape generated).SpellsList q v

/-- What the settings of the replicator are read from. -/
abbrev SpellsReplicator (r : ReplicatorSettings) (v : Octets) : Prop :=
  ReplicatorSettings.shape.SpellsObject r v ∨ ReplicatorSettings.shape.SpellsList r v

theorem takes_queue : Takes (QueueSettings.shape generated).read (SpellsQueue generated) :=
  Shape.takes_read (QueueSettings.isRegular_shape generated)

theorem takes_replicator : Takes ReplicatorSettings.shape.read SpellsReplicator :=
  Shape.takes_read ReplicatorSettings.isRegular_shape

theorem isRegular_shape : (shape generated).IsRegular := by
  intro m hm p
  simp only [shape, List.mem_cons, List.not_mem_nil, or_false] at hm
  rcases hm with rfl | rfl
  · exact (Shape.takes_of (takes_queue generated) p).stands
  · exact (Shape.takes_of takes_replicator p).stands

theorem field_queue : (shape generated).Field "queue" (·.queue) (SpellsQueue generated) := by
  refine Shape.field_of (takes_queue generated) rfl (fun _ _ => rfl) ?_
  intro m hm
  simp only [shape, List.mem_cons, List.not_mem_nil, or_false] at hm
  rcases hm with rfl | rfl
  · exact .inl rfl
  · exact .inr (Shape.spares_of fun _ _ => rfl)

theorem field_replicator :
    (shape generated).Field "replicator" (·.replicator) SpellsReplicator := by
  refine Shape.field_of takes_replicator rfl (fun _ _ => rfl) ?_
  intro m hm
  simp only [shape, List.mem_cons, List.not_mem_nil, or_false] at hm
  rcases hm with rfl | rfl
  · exact .inr (Shape.spares_of fun _ _ => rfl)
  · exact .inl rfl

/-- From any selection of members the settings are read with the selected fields. -/
theorem ofOctets_of_isSelected {s : Settings} {kept : Selection} {text : Octets}
    (h : s.IsSelected kept text) : ofOctets generated text = .ok (s.keeping generated kept) := by
  obtain ⟨w, v, w', ms, queue, qs, replicator, rs, rfl, hw, hw', hv, hsections, hqueue, hqs,
    hreplicator, hrs⟩ := h
  have hqueueHolds : Holds (SpellsQueue generated) { nodeId := generated } (valuesOf "queue" ms)
      (s.keeping generated kept).queue :=
    hsections.holds rfl (.inl (QueueSettings.spellsObject_keeping generated hqueue hqs)) _
  have hreplicatorHolds : Holds SpellsReplicator {} (valuesOf "replicator" ms)
      (s.keeping generated kept).replicator :=
    hsections.holds rfl (.inl (ReplicatorSettings.spellsObject_keeping hreplicator hrs)) _
  have hgathered : ∃ q, (shape generated).Gathered (shape generated).start ms q := by
    refine Shape.exists_gathered_start fun key member hfind => ?_
    obtain ⟨hm, rfl⟩ := Shape.mem_of_find hfind
    simp only [shape, List.mem_cons, List.not_mem_nil, or_false] at hm
    rcases hm with rfl | rfl
    · exact ⟨_, _, _, field_queue generated, rfl, hqueueHolds.exists_once⟩
    · exact ⟨_, _, _, field_replicator generated, rfl, hreplicatorHolds.exists_once⟩
  obtain ⟨q, hq⟩ := hgathered
  have hspells : (shape generated).SpellsObject (s.keeping generated kept) v := by
    refine ⟨ms, q, hv, hq, rfl, ?_⟩
    show Settings.mk _ _ = _
    rw [hq.getD_eq (field_queue generated) rfl hqueueHolds,
      hq.getD_eq (field_replicator generated) rfl hreplicatorHolds]
  exact (Shape.takes_read (isRegular_shape generated)).readWhole_eq_ok.mpr
    ⟨w, v, w', hw, .inl hspells, hw', rfl⟩

/-! ## What is written -/

/-- Everything is selected. -/
def Selection.all : Selection where
  sections _ := true
  queue _ := true
  replicator _ := true

theorem keeping_all (s : Settings) : s.keeping generated .all = s := rfl

theorem isObject_queue (s : QueueSettings) :
    IsObject (membersOf s.written) (Octets.ofChars (objectChars s.written)) := by
  refine isObject_written fun w hw => ?_
  have htext : ∀ t : QueueSettings.TextField,
      IsValue (Octets.ofChars (stringChars (t.of s))) :=
    fun t => (spellsText_written _).isValue
  simp only [QueueSettings.written, List.mem_cons, List.not_mem_nil, or_false] at hw
  rcases hw with rfl | rfl | rfl | rfl | rfl | rfl | rfl | rfl | rfl
  · exact htext .url
  · exact htext .clusterId
  · exact htext .nodeId
  · exact htext .subject
  · exact htext .ackWait
  · exact htext .reconnectInterval
  · exact htext .blockTimeout
  · exact htext .connectionTimeout
  · exact takes_bool.isValue (spellsBool_written s.writeOnly)

theorem isObject_replicator (s : ReplicatorSettings) :
    IsObject (membersOf s.written) (Octets.ofChars (objectChars s.written)) := by
  refine isObject_written fun w hw => ?_
  obtain rfl := List.mem_singleton.mp hw
  exact (takes_list Change.takes_domain).isValue
    (ReplicatorSettings.spellsDomains_written s.domains)

/-- The text of settings is the selection of everything. -/
theorem isSelected_json (s : Settings) : s.IsSelected .all (Octets.ofString s.json) := by
  have hqueue := isObject_queue s.queue
  have hreplicator := isObject_replicator s.replicator
  have hsections : IsObject (membersOf [("queue", objectChars s.queue.written),
      ("replicator", objectChars s.replicator.written)]) (Octets.ofString s.json) := by
    rw [json, Octets.ofString, String.toList_ofList]
    refine isObject_written fun w hw => ?_
    simp only [List.mem_cons, List.not_mem_nil, or_false] at hw
    rcases hw with rfl | rfl
    · exact hqueue.isValue
    · exact hreplicator.isValue
  exact ⟨[], _, [], _, _, _, _, _, by simp, isBlank_nil, isBlank_nil, hsections, remains_self _,
    hqueue, remains_self _, hreplicator, remains_self _⟩

/-- Settings are read back from their text, whatever characters their texts and domains have. And
when any members are left out, of the whole or of a section, and the others stand in any order
with foreign members between them, the same settings are read with exactly the fields that were
left out at their defaults; a node id that was left out is generated. -/
theorem json_keeps_settings (s : Settings) :
    ofOctets generated (Octets.ofString s.json) = .ok s ∧
    ∀ kept text, s.IsSelected kept text →
      ofOctets generated text = .ok (s.keeping generated kept) := by
  refine ⟨?_, fun kept text h => ofOctets_of_isSelected generated h⟩
  rw [ofOctets_of_isSelected generated s.isSelected_json, keeping_all]

/-- Two members of the queue are kept, and none of the replicator, which stands first; there are
foreign members in the whole and in the queue. -/
theorem two_members_keep_settings :
    ofOctets "catalogs_0" (Octets.ofString ("\x7b\"replicator\":\x7b\x7d,\"cache\":[null]," ++
      "\"queue\":\x7b\"write_only\":true,\"URL\":null," ++
      "\"subject\":\"Ä\\u0001\\\"\"\x7d\x7d")) =
      .ok { queue := { nodeId := "catalogs_0", subject := "Ä\u0001\"", writeOnly := true } } := by
  let s : Settings :=
    { queue := { nodeId := "n1", url := "redis://q", subject := "Ä\u0001\"", writeOnly := true }
      replicator := ⟨[⟨"pricing"⟩]⟩ }
  let kept : Selection :=
    ⟨fun _ => true, fun key => key == "subject" || key == "write_only", fun _ => false⟩
  let queue : List Written := [("write_only", boolChars true), ("URL", "null".toList),
    ("subject", stringChars "Ä\u0001\"")]
  let whole : List Written := [("replicator", objectChars []), ("cache", "[null]".toList),
    ("queue", objectChars queue)]
  have hqueue : IsObject (membersOf queue) (Octets.ofChars (objectChars queue)) := by
    refine isObject_written (List.forall_mem_cons.mpr ⟨isValue_boolWord true, ?_⟩)
    exact List.forall_mem_cons.mpr ⟨.null, List.forall_mem_cons.mpr
      ⟨(spellsText_written _).isValue, nofun⟩⟩
  have hreplicator : IsObject [] (Octets.ofChars (objectChars [])) := .empty isBlank_nil
  have hwhole : IsObject (membersOf whole) (Octets.ofChars (objectChars whole)) := by
    refine isObject_written (List.forall_mem_cons.mpr ⟨hreplicator.isValue, ?_⟩)
    refine List.forall_mem_cons.mpr ⟨?_, List.forall_mem_cons.mpr ⟨hqueue.isValue, nofun⟩⟩
    exact .list isBlank_nil (.lastItem .null isBlank_nil)
  have hselected : s.IsSelected kept (Octets.ofChars (objectChars whole)) :=
    ⟨[], _, [], _, _, _, _, _, by simp, isBlank_nil, isBlank_nil, hwhole, by decide +kernel,
      hqueue, by decide +kernel, hreplicator, by decide +kernel⟩
  exact (json_keeps_settings "catalogs_0" s).2 kept _ hselected

end Settings
end CatalogReplica
