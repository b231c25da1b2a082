import Subgraph.Proofs.Loading

/-!
# Writing — what a build does once it has loaded

The second half of a build writes: the bindings of data sources, in order, those of templates, under
way together, and then the file with the classes of the templates.

* `Generator.Wrote`: the bindings of some interfaces have been made and written, one after the
  other, with nothing but preludes between them.
* `Generator.Stopped`: the bindings of the first interfaces have been written, and those of the
  next have not.
* `Generator.WritesAll`: what comes of the bindings of data sources, and then of those of templates.
* `WritesAll.inOrder`: where no answer has to be waited for, it is as if all were written in order.
* `runs_generate`: a generator fails in a prelude, or it loads all interfaces and writes their
  bindings.
-/

namespace Subgraph

open Subgraph.Action

variable {σ : Type} {host : Host σ} {s s' s₁ : σ} {t t₁ t₂ : List Event}

/-! ### The bindings of one interface -/

namespace Generator

/-- The bindings of an interface are about to be made. -/
def announcement (l : LoadedAbi) : Event := .told (.generating l.reference.abi l.reference.owner)

/-- A file with bindings has been written. -/
def success (a : Artifact) : Event := .told (.progress (.step "Write types to" a.path.text))

/-- How the bindings of an interface are not written. -/
inductive Failed (g : Generator) (host : Host σ) (s : σ) (l : LoadedAbi) :
    Error → σ → List Event → Prop
  | unmade {e : Error} (render : g.render l = .error e) : Failed g host s l e s [announcement l]
  | unwritten {a : Artifact} {e : Error} {s' : σ} {t : List Event} (render : g.render l = .ok a)
      (file : FileRun host a.path a.text s (.error e) s' t) :
      Failed g host s l e s' (announcement l :: t)

/-- **The bindings of one interface** are made and written, or `Failed` says why not. -/
theorem runs_writeBindings {g : Generator} {l : LoadedAbi} {r : Outcome Artifact}
    (h : Runs host (g.writeBindings l) s r s' t) :
    (∃ a t₁, r = .ok a ∧ g.render l = .ok a ∧ FileRun host a.path a.text s (.ok ()) s' t₁ ∧
      t = announcement l :: t₁ ++ [success a]) ∨
    ∃ e, r = .error e ∧ g.Failed host s l e s' t := by
  unfold writeBindings renderAction at h
  rw [bind_assoc] at h
  obtain ⟨t₀, made, rfl⟩ := runs_notify_bind.mp h
  rcases runs_bind.mp made with ⟨a, s₁, t₁, t₂, ha, filed, rfl⟩ | ⟨e, rfl, ha⟩
  · obtain ⟨hr, rfl, rfl⟩ := runs_ofOutcome.mp ha
    rcases runs_bind.mp filed with ⟨v, s₂, t₁, t₃, hf, told, rfl⟩ | ⟨e, rfl, hf⟩
    · obtain ⟨t₄, returned, rfl⟩ := runs_notify_bind.mp told
      obtain ⟨rfl, rfl, rfl⟩ := runs_pure.mp returned
      exact .inl ⟨a, t₁, rfl, hr.symm, runs_writeFile hf, rfl⟩
    · exact .inr ⟨e, rfl, .unwritten hr.symm (runs_writeFile hf)⟩
  · obtain ⟨hr, rfl, rfl⟩ := runs_ofOutcome.mp ha
    exact .inr ⟨e, rfl, .unmade hr.symm⟩

/-- A file with bindings has their text, and lies where its reference says. -/
theorem eq_of_render {g : Generator} {l : LoadedAbi} {a : Artifact} (h : g.render l = .ok a) :
    l.interface.bindings = .ok a.text ∧
      l.reference.outputPath g.options.outputDir g.options.extension = .ok a.path := by
  unfold render at h
  rcases hb : l.interface.bindings with cause | text
  · rw [hb] at h
    cases h
  · rw [hb] at h
    rcases hp : l.reference.outputPath g.options.outputDir g.options.extension with cause | path
    · simp only [hp] at h
      cases h
    · simp only [hp] at h
      cases h
      exact ⟨rfl, rfl⟩

theorem kind_of_outputPath {ref : AbiReference} {root : Path} {extension : String} {e : Error}
    (h : ref.outputPath root extension = .error e) : e.kind = .config := by
  unfold AbiReference.outputPath at h
  split at h <;> cases h
  rfl

theorem kind_of_render {g : Generator} {l : LoadedAbi} {e : Error} (h : g.render l = .error e) :
    e.kind = .generation ∨ e.kind = .config := by
  unfold render at h
  rcases hb : l.interface.bindings with cause | text
  · rw [hb] at h
    cases h
    exact .inl rfl
  · rw [hb] at h
    rcases hp : l.reference.outputPath g.options.outputDir g.options.extension with cause | path
    · simp only [hp] at h
      cases h
      exact .inr (kind_of_outputPath hp)
    · simp only [hp] at h
      cases h

/-! ### The bindings of several interfaces -/

/-- The bindings of some interfaces have been made and written, one after the other. -/
inductive Wrote (g : Generator) (host : Host σ) :
    σ → List LoadedAbi → List Artifact → σ → List Event → Prop
  | nil {s : σ} : Wrote g host s [] [] s []
  | cons {s s₁ s' : σ} {l : LoadedAbi} {a : Artifact} {ls : List LoadedAbi} {as : List Artifact}
      {t₁ t₂ : List Event} (render : g.render l = .ok a)
      (file : FileRun host a.path a.text s (.ok ()) s₁ t₁) (rest : Wrote g host s₁ ls as s' t₂) :
      Wrote g host s (l :: ls) (a :: as) s' (announcement l :: t₁ ++ success a :: t₂)
  /-- What a prelude may tell may also be told between files. -/
  | aside {s s' : σ} {ls : List LoadedAbi} {as : List Artifact} {e : Event} {t : List Event}
      (prelude : e.IsPrelude) (rest : Wrote g host s ls as s' t) : Wrote g host s ls as s' (e :: t)

/-- Bindings have been written up to those of an interface, which have not. -/
inductive Stopped (g : Generator) (host : Host σ) :
    σ → List LoadedAbi → Error → σ → List Event → Prop
  | mk {s s₁ s' : σ} {ls : List LoadedAbi} {l : LoadedAbi} (rest : List LoadedAbi)
      {as : List Artifact} {e : Error} {t₁ t₂ t₃ : List Event}
      (before : Wrote g host s ls as s₁ t₁) (failed : Failed g host s₁ l e s' t₂)
      (after : Prelude t₃) : Stopped g host s (ls ++ l :: rest) e s' (t₁ ++ t₂ ++ t₃)

variable {g : Generator} {ls ls₁ ls₂ : List LoadedAbi} {as as₁ as₂ : List Artifact} {e : Error}

theorem wrote_of_prelude (h : Prelude t) : g.Wrote host s [] [] s t := by
  induction t with
  | nil => exact .nil
  | cons e t ih =>
      obtain ⟨first, rest⟩ := List.forall_mem_cons.mp h
      exact .aside first (ih rest)

/-- Bindings that have been written after others follow them in one list. -/
theorem Wrote.append (h₁ : g.Wrote host s ls₁ as₁ s₁ t₁) (h₂ : g.Wrote host s₁ ls₂ as₂ s' t₂) :
    g.Wrote host s (ls₁ ++ ls₂) (as₁ ++ as₂) s' (t₁ ++ t₂) := by
  induction h₁ with
  | nil => exact h₂
  | @cons s s₁ s' l a ls as t t' render file rest ih =>
      rw [List.append_assoc]
      exact .cons render file (ih h₂)
  | aside prelude rest ih => exact .aside prelude (ih h₂)

theorem Wrote.before (h : g.Wrote host s ls as s' t) (h₀ : Prelude t₁) :
    g.Wrote host s ls as s' (t₁ ++ t) := (wrote_of_prelude h₀).append h

theorem Wrote.after (h : g.Wrote host s ls as s' t) (h₀ : Prelude t₁) :
    g.Wrote host s ls as s' (t ++ t₁) := by
  have h' := h.append (wrote_of_prelude h₀)
  rwa [List.append_nil, List.append_nil] at h'

/-- After some bindings have been written, others are not. -/
theorem Wrote.stopped (h₁ : g.Wrote host s ls₁ as₁ s₁ t₁) (h₂ : g.Stopped host s₁ ls₂ e s' t₂) :
    g.Stopped host s (ls₁ ++ ls₂) e s' (t₁ ++ t₂) := by
  obtain ⟨rest, before, failed, after⟩ := h₂
  rw [← List.append_assoc, ← List.append_assoc, ← List.append_assoc]
  exact .mk rest (h₁.append before) failed after

theorem Stopped.after (h : g.Stopped host s ls e s' t) (h₀ : Prelude t₁) :
    g.Stopped host s ls e s' (t ++ t₁) := by
  obtain ⟨rest, before, failed, after⟩ := h
  rw [List.append_assoc]
  exact .mk rest before failed (after.append h₀)

/-- What was not reached does not matter. -/
theorem Stopped.extend (h : g.Stopped host s ls₁ e s' t) :
    g.Stopped host s (ls₁ ++ ls₂) e s' t := by
  obtain ⟨rest, before, failed, after⟩ := h
  rw [List.append_assoc]
  exact .mk (rest ++ ls₂) before failed after

/-- **Bindings are written in order**, up to the first that cannot be. -/
theorem runs_writeAll {r : Outcome (List Artifact)} (h : Runs host (g.writeAll ls) s r s' t) :
    (∃ as, r = .ok as ∧ g.Wrote host s ls as s' t) ∨
      ∃ e, r = .error e ∧ g.Stopped host s ls e s' t := by
  unfold writeAll at h
  induction ls generalizing s r t with
  | nil =>
      obtain ⟨rfl, rfl, rfl⟩ := runs_mapM_nil.mp h
      exact .inl ⟨[], rfl, .nil⟩
  | cons l ls ih =>
      rcases runs_mapM_cons.mp h with ⟨a, s₁, t₁, t₂, hl, rfl, hls⟩ | ⟨e, rfl, hl⟩
      · rcases runs_writeBindings hl with ⟨a', t₀, ha, render, file, rfl⟩ | ⟨e, ha, -⟩
        · cases ha
          -- the first file is written; the others follow it, or stop after it
          have first : g.Wrote host s [l] [a] s₁ (announcement l :: t₀ ++ [success a]) :=
            .cons render file .nil
          rcases hls with ⟨as, rfl, hls⟩ | ⟨e, rfl, hls⟩
          · rcases ih hls with ⟨as', has, wrote⟩ | ⟨e, has, -⟩
            · cases has
              exact .inl ⟨a :: as, rfl, first.append wrote⟩
            · cases has
          · rcases ih hls with ⟨as', has, -⟩ | ⟨e', has, stopped⟩
            · cases has
            · cases has
              exact .inr ⟨e, rfl, first.stopped stopped⟩
        · cases ha
      · -- the first file is not written, and the others are not reached
        rcases runs_writeBindings hl with ⟨a', t₀, ha, -⟩ | ⟨e', ha, failed⟩
        · cases ha
        · cases ha
          have stopped := Stopped.mk ls .nil failed prelude_nil
          rw [List.append_nil] at stopped
          exact .inr ⟨e, rfl, stopped⟩

/-! ### All bindings of a manifest -/

/-- The references of a manifest, those of data sources first. -/
def references (g : Generator) (m : Manifest) : List AbiReference :=
  g.located m.dataSourceAbis ++ g.located m.templateAbis

/-- What comes of the bindings of some interfaces: they are written in order, up to the first that
cannot be. -/
def Writes (g : Generator) (host : Host σ) (s : σ) (ls : List LoadedAbi)
    (r : Outcome (List Artifact)) (s' : σ) (t : List Event) : Prop :=
  (∃ as, r = .ok as ∧ g.Wrote host s ls as s' t) ∨
    ∃ frame e, r = .error (.context frame e) ∧ g.Stopped host s ls e s' t

/-- A stage that writes bindings writes them up to the first that it cannot. -/
theorem runs_writeStage {title failure : String} {r : Outcome (List Artifact)}
    (h : Runs host (stage title failure (g.writeAll ls)) s r s' t) : g.Writes host s ls r s' t := by
  have begun : Prelude [.told (.progress (.begin title))] := .cons (isPrelude_begin _) prelude_nil
  rcases runs_stage h with ⟨as, t₀, rfl, h₀, rfl⟩ | ⟨e, t₀, rfl, h₀, rfl⟩
  · rcases runs_writeAll h₀ with ⟨as', has, wrote⟩ | ⟨e, has, -⟩
    · cases has
      exact .inl ⟨as, rfl, (wrote.before begun).after (.cons (isPrelude_succeed _) prelude_nil)⟩
    · cases has
  · rcases runs_writeAll h₀ with ⟨as', has, -⟩ | ⟨e', he, stopped⟩
    · cases has
    · cases he
      refine .inr ⟨_, e, rfl, Stopped.after ?_ (.cons (isPrelude_fail _ _) prelude_nil)⟩
      exact (wrote_of_prelude begun).stopped stopped

/-- Where no answer has to be waited for, bindings under way together are written one after the
other. -/
theorem writeTogether_nil (ls : List LoadedAbi) : g.writeTogether [] ls = g.writeAll ls :=
  List.mapM_map

/-- What comes of the bindings of a manifest: those of the data sources are written in order, up to
the first that cannot be, and then those of the templates together. -/
inductive WritesAll (g : Generator) (host : Host σ) (pace : Pace) (s : σ)
    (ls ls' : List LoadedAbi) : Outcome (List Artifact) → σ → List Event → Prop
  | stopped {frame : Frame} {e : Error} {s' : σ} {t : List Event}
      (first : g.Stopped host s ls e s' t) :
      WritesAll g host pace s ls ls' (.error (.context frame e)) s' t
  | written {as as' : List Artifact} {s₁ s' : σ} {t₁ t₂ t₃ : List Event}
      (first : g.Wrote host s ls as s₁ t₁)
      (rest : Runs host (g.writeTogether pace ls') s₁ (.ok as') s' t₂) (after : Prelude t₃) :
      WritesAll g host pace s ls ls' (.ok (as ++ as')) s' (t₁ ++ t₂ ++ t₃)
  | failed {frame : Frame} {as : List Artifact} {e : Error} {s₁ s' : σ} {t₁ t₂ t₃ : List Event}
      (first : g.Wrote host s ls as s₁ t₁)
      (rest : Runs host (g.writeTogether pace ls') s₁ (.error e) s' t₂) (after : Prelude t₃) :
      WritesAll g host pace s ls ls' (.error (.context frame e)) s' (t₁ ++ t₂ ++ t₃)

/-- The bindings of a manifest are written in two stages. -/
theorem runs_writeStages {title title' failure failure' : String} {pace : Pace}
    {r : Outcome (List Artifact)} (h : Runs host (do
      let as ← stage title failure (g.writeAll ls₁)
      let as' ← stage title' failure' (g.writeTogether pace ls₂)
      return as ++ as') s r s' t) : g.WritesAll host pace s ls₁ ls₂ r s' t := by
  have begun : Prelude [.told (.progress (.begin title'))] := .cons (isPrelude_begin _) prelude_nil
  -- what the second stage tells at its begin belongs to the first half
  have shape (t₁ t₀ : List Event) (b e : Event) :
      t₁ ++ (b :: t₀ ++ [e]) = t₁ ++ [b] ++ t₀ ++ [e] := by simp
  rcases runs_bind.mp h with ⟨as, s₁, t₁, t₂, h₁, h₂, rfl⟩ | ⟨e, rfl, h₁⟩
  · rcases runs_writeStage h₁ with ⟨as₁, has, wrote⟩ | ⟨_, _, has, -⟩ <;> cases has
    rw [bind_pure_comp] at h₂
    rcases runs_map.mp h₂ with ⟨as', rfl, h₃⟩ | ⟨e, rfl, h₃⟩
    · rcases runs_stage h₃ with ⟨_, t₀, has, rest, rfl⟩ | ⟨_, _, has, -⟩ <;> cases has
      rw [shape]
      exact .written (wrote.after begun) rest (.cons (isPrelude_succeed _) prelude_nil)
    · rcases runs_stage h₃ with ⟨_, _, has, -⟩ | ⟨e, t₀, has, rest, rfl⟩ <;> cases has
      rw [shape]
      exact .failed (wrote.after begun) rest (.cons (isPrelude_fail _ _) prelude_nil)
  · rcases runs_writeStage h₁ with ⟨_, has, -⟩ | ⟨frame, e₀, has, stopped⟩ <;> cases has
    exact .stopped stopped

/-- All interfaces of one stage are loaded in a prelude, or one cannot be loaded. -/
theorem runs_loadStage (hg : g.reader.IsDiscreet) {title failure step : String}
    (hstep : ∀ detail, (Progress.step step detail).written? = none) {refs : List AbiReference}
    {r : Outcome (List LoadedAbi)}
    (h : Runs host (stage title failure (refs.mapM (g.loadAbi step))) s r s' t) :
    Prelude t ∧ s' = s ∧ ((∃ ls, r = .ok ls ∧ List.Forall₂ (g.Loads (host.read s)) refs ls) ∨
      ∃ e, r = .error e ∧ e.kind = .load) := by
  obtain ⟨ht, hr⟩ := runs_stage_prelude h fun h => (runs_loadAll h).2.prelude hg hstep
  rcases hr with ⟨ls, t₀, rfl, h₀⟩ | ⟨e, t₀, rfl, h₀⟩
  · obtain ⟨hs, loading⟩ := runs_loadAll h₀
    rcases loading.loads with ⟨ls', hls, all⟩ | ⟨_, hls, -⟩
    · cases hls
      exact ⟨ht, hs, .inl ⟨ls, rfl, all⟩⟩
    · cases hls
  · obtain ⟨hs, loading⟩ := runs_loadAll h₀
    rcases loading.loads with ⟨_, he, -⟩ | ⟨e', he, kind⟩
    · cases he
    · cases he
      exact ⟨ht, hs, .inr ⟨_, rfl, kind⟩⟩

/-- What comes of generating all bindings of a manifest: some interface cannot be loaded, and then
there is a prelude only; or all are loaded, and bindings are written. -/
def Generates (g : Generator) (host : Host σ) (pace : Pace) (s : σ) (m : Manifest)
    (r : Outcome (List Artifact)) (s' : σ) (t : List Event) : Prop :=
  (Prelude t ∧ ∃ e, r = .error e ∧ e.kind = .load) ∨
    ∃ ls ls', List.Forall₂ (g.Loads (host.read s)) (g.located m.dataSourceAbis) ls ∧
      List.Forall₂ (g.Loads (host.read s)) (g.located m.templateAbis) ls' ∧
        g.WritesAll host pace s ls ls' r s' t

theorem WritesAll.between {pace : Pace} {r : Outcome (List Artifact)}
    (h : g.WritesAll host pace s ls₁ ls₂ r s' t) (h₁ : Prelude t₁) (h₂ : Prelude t₂) :
    g.WritesAll host pace s ls₁ ls₂ r s' (t₁ ++ t ++ t₂) := by
  have shape (t t' t₃ : List Event) : t₁ ++ (t ++ t' ++ t₃) ++ t₂ = t₁ ++ t ++ t' ++ (t₃ ++ t₂) := by
    simp
  cases h with
  | stopped first => exact .stopped (((wrote_of_prelude h₁).stopped first).after h₂)
  | written first rest after =>
      rw [shape]
      exact .written (first.before h₁) rest (after.append h₂)
  | failed first rest after =>
      rw [shape]
      exact .failed (first.before h₁) rest (after.append h₂)

theorem Generates.between {pace : Pace} {m : Manifest} {r : Outcome (List Artifact)}
    (h : g.Generates host pace s m r s' t) (h₁ : Prelude t₁) (h₂ : Prelude t₂) :
    g.Generates host pace s m r s' (t₁ ++ t ++ t₂) := by
  rcases h with ⟨h, failed⟩ | ⟨ls, ls', loads, loads', writes⟩
  · exact .inl ⟨(h₁.append h).append h₂, failed⟩
  · exact .inr ⟨ls, ls', loads, loads', writes.between h₁ h₂⟩

/-- Where no answer has to be waited for, all bindings are written in order. -/
theorem WritesAll.inOrder {r : Outcome (List Artifact)}
    (h : g.WritesAll host [] s ls₁ ls₂ r s' t) : g.Writes host s (ls₁ ++ ls₂) r s' t := by
  cases h with
  | stopped first => exact .inr ⟨_, _, rfl, first.extend⟩
  | written first rest after =>
      rw [writeTogether_nil] at rest
      rcases runs_writeAll rest with ⟨_, has, wrote⟩ | ⟨_, has, -⟩ <;> cases has
      exact .inl ⟨_, rfl, (first.append wrote).after after⟩
  | failed first rest after =>
      rw [writeTogether_nil] at rest
      rcases runs_writeAll rest with ⟨_, he, -⟩ | ⟨_, he, stopped⟩ <;> cases he
      exact .inr ⟨_, _, rfl, (first.stopped stopped).after after⟩

theorem runs_work (hg : g.reader.IsDiscreet) {m : Manifest} {pace : Pace}
    {r : Outcome (List Artifact)} (h : Runs host (g.work m pace) s r s' t) :
    g.Generates host pace s m r s' t := by
  rcases runs_bind.mp h with ⟨ls₁, s₁, t₁, t₂, h₁, rest, rfl⟩ | ⟨e, rfl, h₁⟩
  · obtain ⟨p₁, rfl, hr⟩ := runs_loadStage hg (fun _ => rfl) h₁
    rcases hr with ⟨_, hls, loads₁⟩ | ⟨_, hls, -⟩ <;> cases hls
    rcases runs_bind.mp rest with ⟨ls₂, s₂, t₃, t₄, h₂, written, rfl⟩ | ⟨e, rfl, h₂⟩
    · obtain ⟨p₂, rfl, hr⟩ := runs_loadStage hg (fun _ => rfl) h₂
      rcases hr with ⟨_, hls, loads₂⟩ | ⟨_, hls, -⟩ <;> cases hls
      obtain ⟨t₅, stages, rfl⟩ := runs_notify_bind.mp written
      have entered := isPrelude_entered g.family .generating
      have loaded := p₁.append (p₂.append (.cons entered prelude_nil))
      have writes := (runs_writeStages stages).between loaded prelude_nil
      refine .inr ⟨ls₁, ls₂, loads₁, loads₂, ?_⟩
      simpa using writes
    · obtain ⟨p₂, -, hr⟩ := runs_loadStage hg (fun _ => rfl) h₂
      rcases hr with ⟨_, he, -⟩ | ⟨_, he, kind⟩ <;> cases he
      exact .inl ⟨p₁.append p₂, e, rfl, kind⟩
  · obtain ⟨p₁, -, hr⟩ := runs_loadStage hg (fun _ => rfl) h₁
    rcases hr with ⟨_, he, -⟩ | ⟨_, he, kind⟩ <;> cases he
    exact .inl ⟨p₁, e, rfl, kind⟩

/-- Generating all bindings tells of the first and the last state, whatever comes of the work. -/
theorem runs_of_generate {m : Manifest} {pace : Pace} {r : Outcome (List Artifact)}
    (h : Runs host (g.generate m pace) s r s' t) :
    ∃ t₀, Runs host (g.work m pace) s r s' t₀ ∧ t = .told (.entered g.family .loading) :: t₀ ++
      [.told (.entered g.family (if r.toBool then .done else .failed))] := by
  -- the end is told of whatever comes of the work, so this is no bind of actions either
  have run : (g.generate m pace).run.run host s = _ :=
    (Program.run_bind host (Program.notify _) _ s).trans
      (congrArg (fun r : Run σ (Outcome (List Artifact)) => Run.mk r.value r.state (_ :: r.trace))
        (Program.run_bind host (g.work m pace).run _ s))
  cases run.symm.trans h
  exact ⟨_, runs_self host (g.work m pace) s, rfl⟩

/-- **A generator loads all interfaces before it writes.**  If one cannot be loaded, it writes
nothing. -/
theorem runs_generate (hg : g.reader.IsDiscreet) {m : Manifest} {pace : Pace}
    {r : Outcome (List Artifact)} (h : Runs host (g.generate m pace) s r s' t) :
    g.Generates host pace s m r s' t := by
  obtain ⟨t₀, work, rfl⟩ := runs_of_generate h
  exact (runs_work hg work).between
    (.cons (isPrelude_entered _ _) prelude_nil) (.cons (isPrelude_entered _ _) prelude_nil)

end Generator

end Subgraph
