import MasterOfFiles.Storage.BloquesEnUso

/-!
Snapshot isolation. A request leaves a File:Tag as it was when it targets another one or
finds it committed, as long as no earlier COMMIT freed a block that was still linked.
-/
namespace StorageAislamiento
open StorageEstado StorageArchivos StoragePrimitivas StoragePedidos StorageDeduplicacion
open StorageBloquesEnUso GuardedRuns

variable {Hash : Type}

/-- The File:Tag is still there with the same size, state and bytes in every block. -/
def MismaVersion (sb : Superbloque) (s s' : Storage Hash) (f : FileTag) : Prop :=
  ∀ c, s.carpetas.lookup f = some c → ∃ c', s'.carpetas.lookup f = some c' ∧
    c'.tamanio = c.tamanio ∧ c'.estado = c.estado ∧
    ∀ bloque, leerBloque sb s' f bloque = leerBloque sb s f bloque

def Ajeno (s : Storage Hash) (p : Pedido) (f : FileTag) : Prop :=
  p.objetivo ≠ f ∨ (verificarSiCommited s f = true ∧ p ≠ .eliminar f)

theorem mismaVersion_refl (sb : Superbloque) (s : Storage Hash) (f : FileTag) :
    MismaVersion sb s s f :=
  fun c hc => ⟨c, hc, rfl, rfl, fun _ => rfl⟩

theorem mismaVersion_of_igual {sb : Superbloque} {s s' : Storage Hash} {f : FileTag}
    (lookup : s'.carpetas.lookup f = s.carpetas.lookup f)
    (read : ∀ bloque, leerBloque sb s' f bloque = leerBloque sb s f bloque) :
    MismaVersion sb s s' f :=
  fun c hc => ⟨c, lookup.trans hc, rfl, rfl, read⟩

variable [DecidableEq Hash]

def Aislado (sb : Superbloque) (md5 : Bytes → Hash) (s : Storage Hash) : Prop :=
  ∀ p f, Ajeno s p f → MismaVersion sb s (trasPedido sb md5 s p) f

variable {sb : Superbloque} {md5 : Bytes → Hash} {s : Storage Hash} {f : FileTag} {p : Pedido}

theorem otro_objetivo_leerBloque (md5 : Bytes → Hash) (sano : Sano sb s) (uso : EnUso s)
    (other : f ≠ p.objetivo) :
    (trasPedido sb md5 s p).carpetas.lookup f = s.carpetas.lookup f ∧
      ∀ bloque, leerBloque sb (trasPedido sb md5 s p) f bloque = leerBloque sb s f bloque := by
  by_cases isCommit : ∃ g, p = .commit g
  · obtain ⟨g, rfl⟩ := isCommit
    rcases commit_cases sb md5 g sano with ⟨same, _⟩ | ⟨c, _, _, _, done⟩
    · rw [same]
      exact ⟨rfl, fun _ => rfl⟩
    · have lookup := done.otros f other
      exact ⟨lookup, leerBloque_congr lookup fun _ _ _ => by rw [done.datos]⟩
  · have steps : Primitivas sb True p.objetivo s (trasPedido sb md5 s p) :=
      trasPedido_pasos ⟨sano, fun _ => uso⟩ fun g hg => isCommit ⟨g, hg⟩
    exact ⟨primitivas_lookup_otro steps other, primitivas_leerBloque_otro steps other⟩

theorem otro_objetivo_conserva (sano : Sano sb s) (uso : EnUso s) (other : f ≠ p.objetivo) :
    MismaVersion sb s (trasPedido sb md5 s p) f := by
  obtain ⟨lookup, read⟩ := otro_objetivo_leerBloque md5 sano uso other
  exact mismaVersion_of_igual lookup read

theorem aislado_of_enUso (sano : Sano sb s) (uso : EnUso s) : Aislado sb md5 s := by
  intro p f ajeno
  by_cases target : f = p.objetivo
  · subst target
    rcases ajeno with other | ⟨commited, noDelete⟩
    · exact (other rfl).elim
    · intro c hc
      have closed : c.estado = .commited := by
        simpa [verificarSiCommited, hc] using commited
      have idle : trasPedido sb md5 s p = s := by
        refine trasPedido_commited hc closed ?_
        rintro g rfl
        exact noDelete rfl
      rw [idle]
      exact mismaVersion_refl sb s p.objetivo c hc
  · exact otro_objetivo_conserva sano uso target

/-- In a run whose COMMITs are all CommitSeguro, every state reached isolates. -/
theorem commits_seguros_aislan (sb : Superbloque) (md5 : Bytes → Hash) {ps : List Pedido}
    (safe : Along (trasPedido sb md5) (PedidoSeguro sb md5) (formatearFs sb) ps) :
    ∀ pre, pre <+: ps → Aislado sb md5 (trasPedidos sb md5 pre) := by
  intro pre hp
  have reached := invariant_on_prefixes (fun s => Sano sb s ∧ EnUso s)
    (fun s p inv guard =>
      ⟨sano_trasPedido p inv.1, (enUso_trasPedido p inv.1 inv.2).mpr guard⟩)
    ⟨sano_formatearFs sb, enUso_formatearFs sb⟩ safe pre hp
  exact aislado_of_enUso reached.1 reached.2

theorem commits_seguros_aislan_corrida :
    Along (trasPedido discoDeSeis id) (PedidoSeguro discoDeSeis id) (formatearFs discoDeSeis)
        (nuevoCon a1 120 ++ nuevoCon b1 120 ++ [.commit a1, .commit b1]) ∧
      ∀ pre, pre <+: nuevoCon a1 120 ++ nuevoCon b1 120 ++ [.commit a1, .commit b1] →
        Aislado discoDeSeis id (trasPedidos discoDeSeis id pre) :=
  ⟨by decide, commits_seguros_aislan discoDeSeis id (by decide)⟩

/-- After commitDeCompartido a write to C:1 takes block 2 and changes what B:2 reads. -/
theorem bloque_liberado_sobrescrito :
    ¬ Aislado discoDeSeis id
      (trasPedidos discoDeSeis id (commitDeCompartido ++ [.crear c1, .truncar c1 1])) := by
  intro h
  obtain ⟨c, hc⟩ := Option.isSome_iff_exists.mp (by decide : ((trasPedidos discoDeSeis id
    (commitDeCompartido ++ [.crear c1, .truncar c1 1])).carpetas.lookup b2).isSome = true)
  obtain ⟨_, _, _, _, read⟩ := h (.escribir c1 0 [122]) b2 (.inl (by decide)) c hc
  exact absurd (read 0) (by decide)

end StorageAislamiento
