import MasterOfFiles.Storage.Deduplicacion

/-!
No block in use is free: which requests keep it. Only COMMIT can break it, through the
bits evitar_duplicidad clears without looking at the other links of the block.
-/
namespace StorageBloquesEnUso
open StorageEstado StorageArchivos StorageCommit StoragePrimitivas StoragePasos
open StoragePedidos StorageDeduplicacion LinkDirectory GuardedRuns

variable {Hash : Type}

def BloquesEnUso (s : Storage Hash) : Prop :=
  ∀ b, s.Enlazado b → s.bitmap b = true ∧ s.existe b = true

theorem bloquesEnUso_iff {sb : Superbloque} {s : Storage Hash} (sano : Sano sb s) :
    BloquesEnUso s ↔ EnUso s := by
  constructor
  · intro h f i b hd
    exact (h b ⟨f, i, hd⟩).1
  · rintro h b ⟨f, i, hd⟩
    exact ⟨h f i b hd, sano.fisicos f i b hd⟩

variable [DecidableEq Hash]

/-- The blocks that COMMIT frees have no link but those it moves, and the blocks it links
    to are marked used and not among the freed ones. -/
def CommitSeguro (sb : Superbloque) (md5 : Bytes → Hash) (s : Storage Hash) (f : FileTag)
    (c : Carpeta) : Prop :=
  (∀ l ∈ allLinks Carpeta.logicos s.carpetas, Liberado sb md5 s c c.blocks.length l.2.2 →
    l.1 = f ∧ (relinkeado sb md5 s c l.2.1).isSome = true) ∧
  ∀ i < c.blocks.length, ∀ b ∈ relinkeado sb md5 s c i,
    s.bitmap b = true ∧ ¬ Liberado sb md5 s c c.blocks.length b

instance (sb : Superbloque) (md5 : Bytes → Hash) (s : Storage Hash) (f : FileTag)
    (c : Carpeta) : Decidable (CommitSeguro sb md5 s f c) :=
  inferInstanceAs (Decidable ((∀ l ∈ _, _ → _ ∧ _) ∧ ∀ i < _, ∀ b ∈ _, _ ∧ _))

def PedidoSeguro (sb : Superbloque) (md5 : Bytes → Hash) (s : Storage Hash) : Pedido → Prop
  | .commit f => esProtegido f = false → ∀ c ∈ s.carpetas.lookup f,
      c.estado ≠ .commited → CommitSeguro sb md5 s f c
  | _ => True

instance (sb : Superbloque) (md5 : Bytes → Hash) (s : Storage Hash) :
    ∀ p, Decidable (PedidoSeguro sb md5 s p)
  | .commit _ => inferInstanceAs (Decidable (_ → ∀ c ∈ _, _ → _))
  | .crear _ | .truncar _ _ | .tag _ _ | .escribir _ _ _ | .flush _ _ _ | .eliminar _ =>
    inferInstanceAs (Decidable True)

variable {sb : Superbloque} {md5 : Bytes → Hash} {s s' : Storage Hash} {f : FileTag}
  {c : Carpeta}

theorem enUso_commit (h : CommitHecho sb md5 s f c s') (hc : s.carpetas.lookup f = some c)
    (uso : EnUso s) : EnUso s' ↔ CommitSeguro sb md5 s f c := by
  constructor
  · intro uso'
    refine ⟨?_, ?_⟩
    · rintro ⟨g, i, b⟩ hm freed
      have hd : s.destino g i = some b := destino_some.mpr (mem_allLinks.mp hm)
      have clear : s'.bitmap b ≠ true := fun hb => ((h.bits b).mp hb).2 freed
      have moved : s'.destino g i ≠ some b := fun hd' => clear (uso' g i b hd')
      rw [destino_commit h hc] at moved
      by_cases hg : g = f
      · refine ⟨hg, ?_⟩
        cases hr : relinkeado sb md5 s c i with
        | none => simp [hg, hr, hg ▸ hd] at moved
        | some b' => rfl
      · simp [hg, hd] at moved
    · intro i _ b hb
      have hd' : s'.destino f i = some b := by
        rw [destino_commit h hc, if_pos rfl, Option.mem_def.mp hb]
        rfl
      exact (h.bits b).mp (uso' f i b hd')
  · rintro ⟨others, targets⟩ g i b hd'
    rw [destino_commit h hc] at hd'
    rw [h.bits]
    have kept : s.destino g i = some b → ¬ (g = f ∧ (relinkeado sb md5 s c i).isSome = true) →
        s.bitmap b = true ∧ ¬ Liberado sb md5 s c c.blocks.length b := by
      intro hd still
      refine ⟨uso g i b hd, fun freed => still ?_⟩
      exact others (g, i, b) (mem_allLinks.mpr (destino_some.mp hd)) freed
    split at hd'
    · rename_i hg
      cases hr : relinkeado sb md5 s c i with
      | none => exact kept (by simpa [hr] using hd') (by simp [hr])
      | some b' =>
        have same : b' = b := by simpa [hr] using hd'
        exact targets i (relinkeado_lt hr) b (by simp [hr, same])
    · rename_i hg
      exact kept hd' (by simp [hg])

theorem enUso_trasPedido (p : Pedido) (sano : Sano sb s) (uso : EnUso s) :
    EnUso (trasPedido sb md5 s p) ↔ PedidoSeguro sb md5 s p := by
  by_cases isCommit : ∃ f, p = .commit f
  · obtain ⟨f, rfl⟩ := isCommit
    rcases commit_cases sb md5 f sano with ⟨same, idle⟩ | ⟨c, unprotected, hc, open_, done⟩
    · rw [same]
      refine iff_of_true uso ?_
      intro unprotected c hc open_
      exact absurd ⟨unprotected, open_⟩ (idle c hc)
    · rw [enUso_commit done hc uso]
      constructor
      · intro safe _ c' hc' _
        rw [hc] at hc'
        cases hc'
        exact safe
      · intro safe
        exact safe unprotected c hc open_
  · have steps : Primitivas sb True p.objetivo s (trasPedido sb md5 s p) :=
      trasPedido_pasos ⟨sano, fun _ => uso⟩ fun f hf => isCommit ⟨f, hf⟩
    refine iff_of_true (enUso_primitivas steps uso) ?_
    cases p with
    | commit f => exact (isCommit ⟨f, rfl⟩).elim
    | _ => trivial

/-- After every prefix of a run the blocks in use are marked and exist, exactly when every
    COMMIT of the run is taken in a CommitSeguro state. -/
theorem bloques_en_uso_iff_commits_seguros (sb : Superbloque) (md5 : Bytes → Hash)
    (ps : List Pedido) :
    (∀ pre, pre <+: ps → BloquesEnUso (trasPedidos sb md5 pre)) ↔
      Along (trasPedido sb md5) (PedidoSeguro sb md5) (formatearFs sb) ps := by
  rw [← every_prefix_iff_along (Sano sb) EnUso
    (fun s p sano => sano_trasPedido p sano)
    (fun s p sano uso => enUso_trasPedido p sano uso)
    (sano_formatearFs sb) (enUso_formatearFs sb) ps]
  refine forall_congr' fun pre => imp_congr_right fun _ => ?_
  exact bloquesEnUso_iff (sano_trasPedidos sb md5 pre)

/-- A:1 and B:1 hold the same byte and B:2 is a tag of B:1. The second COMMIT moves B:1 to
    the block of A:1 and frees block 2, that B:2 still links. -/
def commitDeCompartido : List Pedido :=
  nuevoCon a1 120 ++ nuevoCon b1 120 ++ [.tag b1 b2, .commit a1, .commit b1]

theorem commit_libera_bloque_compartido :
    ¬ BloquesEnUso (trasPedidos discoDeSeis id commitDeCompartido) := by
  intro h
  have used := (h 2 ⟨b2, 0, by decide⟩).1
  exact absurd used (by decide)

end StorageBloquesEnUso
