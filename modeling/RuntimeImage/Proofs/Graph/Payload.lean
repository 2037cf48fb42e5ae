import RuntimeImage.Graph.Payload
import RuntimeImage.Proofs.Cbor.RoundTrip
import RuntimeImage.Proofs.Graph.Environment

/-!
What the exported form keeps of a graph. It drops the order of the variables in effect and the label
of every setting. Both are determined by what it keeps: the variables are the replay of the history,
and the label of a setting is made from its name.
-/

namespace RuntimeImage

open Json Finalizer

/-- What the calls see to in an operation. -/
def Operation.Called : Operation → Prop
  | .run _ _ environment => environment.Pairwise (fun a b => a.1 < b.1)
  | .copy _ source _ _ => source.Grown
  | .makeDir .. | .makeFile .. => True
  | .setEnv label key _ => label = ⟨"env " ++ key, .validation⟩
  | .foreign _ => False

theorem Graph.Grown.called {g : Graph} (hg : Grown g) : ∀ op ∈ g.operations, op.Called := by
  have hconcat : ∀ {ops : List Operation} {last : Operation}, (∀ op ∈ ops, op.Called) →
      last.Called → ∀ op ∈ ops ++ [last], op.Called := by
    intro ops last hops hlast
    exact List.forall_mem_append.mpr ⟨hops, List.forall_mem_singleton.mpr hlast⟩
  induction hg with
  | image | localDir | scratch => simp [Graph.scratch]
  | run hg _ _ ih => exact hconcat ih (Table.pairwise_lt_sorted hg.replayed.nodup_keys)
  | copy _ hs _ _ ih _ => exact hconcat ih hs
  | makeDir _ _ ih | makeFile _ _ ih => exact hconcat ih trivial
  | assign _ _ _ ih => exact hconcat ih rfl

/-! ## Every reachable graph has an exported form -/

theorem normal_textList (ss : List String) : (textList ss).Normal := by
  refine .list fun v hv => ?_
  obtain ⟨s, -, rfl⟩ := List.mem_map.mp hv
  exact .text s

theorem normal_textObject {t : Table String} (ht : t.Pairwise (fun a b => a.1 < b.1)) :
    (textObject t).Normal := by
  refine .object (List.pairwise_map.mpr ht) fun m hm => ?_
  obtain ⟨e, -, rfl⟩ := List.mem_map.mp hm
  exact .text e.2

/-- An object whose names can be seen to ascend. -/
theorem normal_object {members : List (String × Value)}
    (hnames : (members.map Prod.fst).Pairwise (· < ·)) (hmembers : ∀ m ∈ members, m.2.Normal) :
    (Value.object members).Normal :=
  .object (List.pairwise_map.mp hnames) hmembers

mutual

theorem Operation.exists_payload : ∀ {op : Operation}, op.Called →
    ∃ v, op.payload = .ok v ∧ v.Normal
  | .run label argv environment, h => by
    refine ⟨_, rfl, normal_object
      (by decide : ["argv", "env", "failure", "name", "op"].Pairwise (· < ·)) ?_⟩
    simp [normal_textList, normal_textObject h, Value.Normal.text]
  | .copy label source src dest, h => by
    obtain ⟨v, hv, hn⟩ := Graph.exists_payload h
    simp only [Operation.payload, hv, Except.ok.injEq, exists_eq_left']
    refine normal_object
      (by decide : ["dest", "failure", "name", "op", "source", "src"].Pairwise (· < ·)) ?_
    simp [hn, Value.Normal.text]
  | .makeDir label path mode parents, _ => by
    refine ⟨_, rfl, normal_object
      (by decide : ["failure", "mode", "name", "op", "parents", "path"].Pairwise (· < ·)) ?_⟩
    simp [Value.Normal.text, Value.Normal.int, Value.Normal.bool]
  | .makeFile label path content mode, _ => by
    refine ⟨_, rfl, normal_object
      (by decide : ["content", "failure", "mode", "name", "op", "path"].Pairwise (· < ·)) ?_⟩
    simp [Value.Normal.text, Value.Normal.int]
  | .setEnv label key value, _ => by
    refine ⟨_, rfl, normal_object
      (by decide : ["key", "op", "value"].Pairwise (· < ·)) ?_⟩
    simp [Value.Normal.text]

theorem Operation.exists_payloads : ∀ {ops : List Operation}, (∀ op ∈ ops, op.Called) →
    ∃ vs, Operation.payloads ops = .ok vs ∧ ∀ v ∈ vs, v.Normal
  | [], _ => ⟨[], rfl, by simp⟩
  | op :: rest, h => by
    obtain ⟨v, hv, hn⟩ := Operation.exists_payload (h op List.mem_cons_self)
    obtain ⟨vs, hvs, hns⟩ := Operation.exists_payloads fun o ho => h o (List.mem_cons_of_mem _ ho)
    exact ⟨v :: vs, by rw [Operation.payloads, hv, hvs], by simpa using ⟨hn, hns⟩⟩

theorem Graph.exists_payload : ∀ {g : Graph}, g.Grown → ∃ v, g.payload = .ok v ∧ v.Normal
  | ⟨source, operations, environment⟩, h => by
    obtain ⟨vs, hvs, hns⟩ := Operation.exists_payloads h.called
    have hsource : (Value.object
        [("kind", .text source.kind.word), ("ref", .text source.ref)]).Normal :=
      normal_object (by decide : ["kind", "ref"].Pairwise (· < ·)) (by simp [Value.Normal.text])
    have henv := normal_textObject (Table.pairwise_lt_sorted h.replayed.nodup_keys)
    simp only [Graph.payload, hvs, Except.ok.injEq, exists_eq_left']
    refine normal_object
      (by decide : ["env", "operations", "schema_version", "source"].Pairwise (· < ·)) ?_
    simpa [Value.Normal.int, hsource] using ⟨henv, Value.Normal.list hns⟩

end

/-! ## The exported form determines the graph -/

theorem ErrorCode.id_injective {c c' : ErrorCode} (h : c.id = c'.id) : c = c' := by
  revert h
  cases c <;> cases c' <;> decide

theorem SourceKind.word_injective {k k' : SourceKind} (h : k.word = k'.word) : k = k' := by
  revert h
  cases k <;> cases k' <;> decide

theorem textList_injective {ss ss' : List String} (h : textList ss = textList ss') : ss = ss' := by
  refine (List.map_inj_right fun s s' hs => ?_).mp (Value.list.inj h)
  exact Value.text.inj hs

theorem textObject_injective {t t' : Table String} (h : textObject t = textObject t') : t = t' := by
  refine (List.map_inj_right fun e e' he => ?_).mp (Value.object.inj h)
  obtain ⟨hk, hv⟩ := Prod.mk.inj he
  exact Prod.ext hk (Value.text.inj hv)

theorem Label.ext_id {l l' : Label} (hn : l.name = l'.name) (hf : l.failure.id = l'.failure.id) :
    l = l' := by
  cases l
  cases l'
  cases hn
  cases ErrorCode.id_injective hf
  rfl

theorem Operation.payload_copy_eq_ok_iff {label : Label} {source : Graph} {src dest : String}
    {v : Value} :
    (Operation.copy label source src dest).payload = .ok v ↔
      ∃ value, source.payload = .ok value ∧
        v = .object [("dest", .text dest), ("failure", .text label.failure.id),
          ("name", .text label.name), ("op", .text "copy"), ("source", value),
          ("src", .text src)] := by
  rw [Operation.payload]
  cases source.payload with
  | error fault => simp
  | ok value => simp [eq_comm]

theorem Operation.payloads_cons_eq_ok_iff {op : Operation} {rest : List Operation}
    {vs : List Value} :
    Operation.payloads (op :: rest) = .ok vs ↔
      ∃ v vs', op.payload = .ok v ∧ Operation.payloads rest = .ok vs' ∧ vs = v :: vs' := by
  rw [Operation.payloads]
  cases op.payload with
  | error fault => simp
  | ok v => cases Operation.payloads rest <;> simp [eq_comm]

theorem Graph.payload_eq_ok_iff {g : Graph} {v : Value} :
    g.payload = .ok v ↔
      ∃ vs, Operation.payloads g.operations = .ok vs ∧
        v = .object [("env", textObject (Table.sorted g.environment)), ("operations", .list vs),
          ("schema_version", .int Graph.schemaVersion),
          ("source", .object [("kind", .text g.source.kind.word),
            ("ref", .text g.source.ref)])] := by
  obtain ⟨source, operations, environment⟩ := g
  rw [Graph.payload]
  cases Operation.payloads operations with
  | error fault => simp
  | ok vs => simp [eq_comm]

mutual

theorem Operation.eq_of_payload : ∀ {op op' : Operation} {v : Value}, op.Called → op'.Called →
    op.payload = .ok v → op'.payload = .ok v → op = op'
  | .run l argv env, op', v, _, _, hv, hv' => by
    cases hv
    cases op' with
    | run l' argv' env' =>
      simp only [Operation.payload, Except.ok.injEq, Value.object.injEq, List.cons.injEq,
        Prod.mk.injEq, Value.text.injEq, true_and, and_true] at hv'
      obtain ⟨hargv, henv, hfailure, hname⟩ := hv'
      rw [Label.ext_id hname hfailure, textList_injective hargv, textObject_injective henv]
    | copy => simp [Operation.payload_copy_eq_ok_iff] at hv'
    | _ => simp [Operation.payload] at hv'
  | .copy l g src dest, op', v, h, h', hv, hv' => by
    obtain ⟨value, hg, rfl⟩ := Operation.payload_copy_eq_ok_iff.mp hv
    cases op' with
    | copy l' g' src' dest' =>
      obtain ⟨value', hg', heq⟩ := Operation.payload_copy_eq_ok_iff.mp hv'
      simp only [Value.object.injEq, List.cons.injEq, Prod.mk.injEq, Value.text.injEq, true_and,
        and_true] at heq
      obtain ⟨rfl, hfailure, hname, rfl, rfl⟩ := heq
      rw [Label.ext_id hname hfailure, Graph.eq_of_payload h h' hg hg']
    | _ => simp [Operation.payload] at hv'
  | .makeDir l path mode parents, op', v, _, _, hv, hv' => by
    cases hv
    cases op' with
    | makeDir l' path' mode' parents' =>
      simp only [Operation.payload, Except.ok.injEq, Value.object.injEq, List.cons.injEq,
        Prod.mk.injEq, Value.text.injEq, Value.int.injEq, Value.bool.injEq, true_and,
        and_true] at hv'
      obtain ⟨hfailure, rfl, hname, rfl, rfl⟩ := hv'
      rw [Label.ext_id hname hfailure]
    | copy => simp [Operation.payload_copy_eq_ok_iff] at hv'
    | _ => simp [Operation.payload] at hv'
  | .makeFile l path content mode, op', v, _, _, hv, hv' => by
    cases hv
    cases op' with
    | makeFile l' path' content' mode' =>
      simp only [Operation.payload, Except.ok.injEq, Value.object.injEq, List.cons.injEq,
        Prod.mk.injEq, Value.text.injEq, Value.int.injEq, true_and, and_true] at hv'
      obtain ⟨rfl, hfailure, rfl, hname, rfl⟩ := hv'
      rw [Label.ext_id hname hfailure]
    | copy => simp [Operation.payload_copy_eq_ok_iff] at hv'
    | _ => simp [Operation.payload] at hv'
  | .setEnv l key value, op', v, h, h', hv, hv' => by
    cases hv
    cases op' with
    | setEnv l' key' value' =>
      simp only [Operation.payload, Except.ok.injEq, Value.object.injEq, List.cons.injEq,
        Prod.mk.injEq, Value.text.injEq, true_and, and_true] at hv'
      obtain ⟨rfl, rfl⟩ := hv'
      -- The label is not exported, but a call makes it from the name.
      rw [(h : l = _), (h' : l' = _)]
    | copy => simp [Operation.payload_copy_eq_ok_iff] at hv'
    | _ => simp [Operation.payload] at hv'

theorem Operation.eq_of_payloads : ∀ {ops ops' : List Operation} {vs : List Value},
    (∀ op ∈ ops, op.Called) → (∀ op ∈ ops', op.Called) →
    Operation.payloads ops = .ok vs → Operation.payloads ops' = .ok vs → ops = ops'
  | [], [], _, _, _, _, _ => rfl
  | [], op' :: rest', vs, _, _, hv, hv' => by
    cases hv
    simp [Operation.payloads_cons_eq_ok_iff] at hv'
  | op :: rest, ops', vs, h, h', hv, hv' => by
    obtain ⟨v, vs', hop, hrest, rfl⟩ := Operation.payloads_cons_eq_ok_iff.mp hv
    cases ops' with
    | nil => cases hv'
    | cons op' rest' =>
      obtain ⟨w, ws, hop', hrest', heq⟩ := Operation.payloads_cons_eq_ok_iff.mp hv'
      obtain ⟨rfl, rfl⟩ := List.cons.inj heq
      obtain ⟨hc, hcs⟩ := List.forall_mem_cons.mp h
      obtain ⟨hc', hcs'⟩ := List.forall_mem_cons.mp h'
      rw [Operation.eq_of_payload hc hc' hop hop', Operation.eq_of_payloads hcs hcs' hrest hrest']

/-- The variables in effect are not compared: they follow from the source and the history. -/
theorem Graph.eq_of_payload : ∀ {g g' : Graph} {v : Value}, g.Grown → g'.Grown →
    g.payload = .ok v → g'.payload = .ok v → g = g'
  | ⟨source, ops, env⟩, ⟨source', ops', env'⟩, v, h, h', hv, hv' => by
    obtain ⟨vs, hvs, rfl⟩ := Graph.payload_eq_ok_iff.mp hv
    obtain ⟨vs', hvs', heq⟩ := Graph.payload_eq_ok_iff.mp hv'
    simp only [Value.object.injEq, List.cons.injEq, Prod.mk.injEq, Value.list.injEq,
      Value.text.injEq, true_and, and_true] at heq
    obtain ⟨-, rfl, hkind, href⟩ := heq
    have hsource : source = source' := by
      cases source
      cases source'
      cases SourceKind.word_injective hkind
      cases href
      rfl
    have hops : ops = ops' := Operation.eq_of_payloads h.called h'.called hvs hvs'
    have henv : env = Graph.replay source ops := h.replayed.environment_eq
    have henv' : env' = Graph.replay source' ops' := h'.replayed.environment_eq
    rw [henv, henv', hsource, hops]

end

end RuntimeImage
