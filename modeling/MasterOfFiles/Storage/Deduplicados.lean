import MasterOfFiles.Storage.Tomas

/-!
Equal blocks of committed File:Tags share one physical block as long as the hash index names,
at every COMMIT, a block that exists with the contents it is named for, and no request
takes a block that a committed File:Tag still links.
-/
namespace StorageDeduplicados
open StorageEstado StorageArchivos StorageEscritura StorageCommit StoragePrimitivas StoragePasos
open StoragePedidos StorageDeduplicacion StorageMovidas StorageMetadata StorageTomas
open LinkDirectory FirstFit GuardedRuns

variable {Hash : Type} {sb : Superbloque} {s s' : Storage Hash} {f g : FileTag} {c : Carpeta}
  {i b : Nat}

def BloqueCommiteado (s : Storage Hash) (f : FileTag) (i b : Nat) : Prop :=
  f ≠ initialFileBase ∧ ∃ c, s.carpetas.lookup f = some c ∧ c.estado = .commited ∧
    i < c.blocks.length ∧ c.logicos.lookup i = some b

def Deduplicado (sb : Superbloque) (s : Storage Hash) : Prop :=
  ∀ f i a g j b, BloqueCommiteado s f i a → BloqueCommiteado s g j b →
    (s.datos a).take sb.tamanioBloque = (s.datos b).take sb.tamanioBloque → a = b

variable [DecidableEq Hash]

def IndiceCompleto (sb : Superbloque) (md5 : Bytes → Hash) (s : Storage Hash) : Prop :=
  ∀ f i b, BloqueCommiteado s f i b → s.indice.lookup (hashDeBloque sb md5 s b) = some b

theorem deduplicado_of_indice {md5 : Bytes → Hash} (h : IndiceCompleto sb md5 s) :
    Deduplicado sb s := by
  intro f i a g j b ha hb same
  have known := h f i a ha
  rw [hashDeBloque, same] at known
  exact Option.some.inj (known.symm.trans (h g j b hb))

/-- Each logical block of F is the one BLOCKS lists; no link of it is put back because the known
    block is gone, and the block it is linked to anew has the same hash. -/
def CommitCompleto (sb : Superbloque) (md5 : Bytes → Hash) (s : Storage Hash) (c : Carpeta) :
    Prop :=
  ∀ i < c.blocks.length, c.logicos.lookup i = c.blocks[i]? ∧
    decision sb md5 s c i ≠ .restaura ∧
    ∀ e ∈ relinkeado sb md5 s c i, ∀ a ∈ c.blocks[i]?,
      hashDeBloque sb md5 s e = hashDeBloque sb md5 s a

instance (sb : Superbloque) (md5 : Bytes → Hash) (s : Storage Hash) (c : Carpeta) :
    Decidable (CommitCompleto sb md5 s c) :=
  inferInstanceAs (Decidable (∀ i < _, _ ∧ _ ∧ ∀ e ∈ _, ∀ a ∈ _, _))

def SinCommitear (s : Storage Hash) (bloques : List Nat) : Prop :=
  ∀ b ∈ bloques, ∀ l ∈ allLinks Carpeta.logicos s.carpetas, l.2.2 = b →
    verificarSiCommited s l.1 = false

instance (s : Storage Hash) (bloques : List Nat) : Decidable (SinCommitear s bloques) :=
  inferInstanceAs (Decidable (∀ b ∈ _, ∀ l ∈ _, _ → _))

def PedidoCompleto (sb : Superbloque) (md5 : Bytes → Hash) (s : Storage Hash) : Pedido → Prop
  | .commit f => esProtegido f = false → ∀ c ∈ s.carpetas.lookup f, c.estado ≠ .commited →
      CommitCompleto sb md5 s c
  | p => SinCommitear s (tomables sb s p)

instance (sb : Superbloque) (md5 : Bytes → Hash) (s : Storage Hash) :
    ∀ p, Decidable (PedidoCompleto sb md5 s p)
  | .commit _ => inferInstanceAs (Decidable (_ → ∀ c ∈ _, _ → _))
  | .crear _ | .truncar _ _ | .tag _ _ | .escribir _ _ _ | .flush _ _ _ | .eliminar _ =>
    inferInstanceAs (Decidable (SinCommitear _ _))

variable {md5 : Bytes → Hash}

theorem bloqueCommiteado_antes {p : Pedido} (noCommit : ∀ f, p ≠ .commit f) (sano : Sano sb s)
    (h : BloqueCommiteado (trasPedido sb md5 s p) g i b) : BloqueCommiteado s g i b := by
  obtain ⟨noBase, c', hc', closed, hi, hl⟩ := h
  suffices before : s.carpetas.lookup g = some c' from ⟨noBase, c', before, closed, hi, hl⟩
  by_cases target : g = p.objetivo
  swap
  · rw [← trasPedido_lookup_otro md5 p sano target]
    exact hc'
  subst target
  have idle : trasPedido sb md5 s p = s → s.carpetas.lookup p.objetivo = some c' := by
    intro same
    rw [same] at hc'
    exact hc'
  -- if the target was open it still is, so c' would not be committed
  have opened : ∀ c₁ : Carpeta, (trasPedido sb md5 s p).carpetas.lookup p.objetivo = some c₁ →
      c₁.estado ≠ .commited → s.carpetas.lookup p.objetivo = some c' := by
    intro c₁ hc₁ open_
    cases hc₁.symm.trans hc'
    exact (open_ closed).elim
  have rewritten : ∀ (c : Carpeta) (escritos : List Nat), s.carpetas.lookup p.objetivo = some c →
      (∃ c₁, (trasPedido sb md5 s p).carpetas.lookup p.objetivo = some c₁ ∧
        SalvoBloques escritos c c₁) → (∀ f, p ≠ .eliminar f) →
      s.carpetas.lookup p.objetivo = some c' := by
    rintro c escritos hc ⟨c₁, hc₁, rest⟩ noDelete
    by_cases done : c.estado = .commited
    · exact idle (trasPedido_commited hc done noDelete)
    · exact opened c₁ hc₁ (by rw [rest.estado]; exact done)
  cases p with
  | crear f =>
    rcases crearFile_cases s f with ⟨_, _, same⟩ | ⟨_, made⟩
    · exact idle (congrArg Prod.snd same)
    · refine opened ⟨0, .workInProgress, [], ∅⟩ ?_ (by simp)
      rw [trasPedido, atender, made, Pedido.objetivo, lookup_ponerCarpeta, if_pos rfl]
  | truncar f tamanio =>
    cases hc : s.carpetas.lookup f with
    | none => exact idle (by simp [trasPedido, atender, truncarFile, hc])
    | some c =>
      by_cases done : c.estado = .commited
      · exact idle (trasPedido_commited hc done (by simp))
      · rcases truncarFile_carpeta sb hc tamanio with ⟨_, l, hl, _⟩ | ⟨_, _, l, hl, _⟩
        · exact opened _ hl done
        · exact opened _ hl done
  | tag origen destino =>
    rcases tagFile_cases s origen destino with same | ⟨c, _, _, _, made⟩
    · exact idle (congrArg Prod.snd same)
    · refine opened { c with estado := .workInProgress } ?_ (by simp)
      rw [trasPedido, atender, made, Pedido.objetivo, lookup_ponerCarpeta, if_pos rfl]
  | escribir f bloque contenido =>
    cases hc : s.carpetas.lookup f with
    | none => exact idle (by simp [trasPedido, atender, escribirBloque, hc])
    | some c =>
      exact rewritten c _ hc (escribirBloque_reescrita sano hc bloque contenido).2.carpeta
        (by simp)
  | flush f paginas cantidad =>
    cases hc : s.carpetas.lookup f with
    | none => exact idle (by simp [trasPedido, atender, flushArchivo, hc])
    | some c =>
      exact rewritten c _ hc (flushArchivo_reescrita sano hc paginas cantidad).carpeta (by simp)
  | commit f => exact (noCommit f rfl).elim
  | eliminar f =>
    rcases eliminarFileTag_cases sb s f with same | ⟨_, _, _, gone⟩
    · exact idle (congrArg Prod.snd same)
    · rw [trasPedido, atender, gone, Pedido.objetivo, lookup_borrarCarpeta, if_pos rfl] at hc'
      contradiction

theorem representante_conserva {a : Nat} (ha : c.blocks[i]? = some a) (he : s.existe a = true)
    (stays : decision sb md5 s c i = .conserva) :
    representante sb md5 s (c.blocks.take (i + 1)) (hashDeBloque sb md5 s a) = some a := by
  rw [take_succ_of_get ha, representante_append]
  cases known : representante sb md5 s (c.blocks.take i) (hashDeBloque sb md5 s a) with
  | none => simp [he]
  | some e =>
    rw [Option.some_or]
    by_contra other
    simp only [decision, ha, decisionDe, he, known] at stays
    split at stays
    · contradiction
    split at stays
    · rename_i same
      exact other (by rw [same])
    · split at stays
      · contradiction
      · split at stays <;> contradiction

theorem indice_commit (done : CommitHecho sb md5 s f c s') (hc : s.carpetas.lookup f = some c)
    (sano : Sano sb s) (complete : CommitCompleto sb md5 s c) (hi : i < c.blocks.length)
    (hl : ligado sb md5 s c i = some b) :
    s'.indice.lookup (hashDeBloque sb md5 s b) = some b := by
  obtain ⟨listed, noRestore, truth⟩ := complete i hi
  have ha : c.blocks[i]? = some c.blocks[i] := List.getElem?_eq_getElem hi
  generalize c.blocks[i] = a at ha
  rw [ha] at listed
  have he : s.existe a = true := sano.fisicos f i a (destino_some.mpr ⟨c, hc, listed⟩)
  rw [done.indice, ← List.take_length (l := c.blocks)]
  cases dec : decision sb md5 s c i with
  | conserva =>
    have same : a = b := by simpa [ligado, relinkeado, dec, listed] using hl
    subst same
    exact representante_mono (by omega) (representante_conserva ha he dec)
  | reemplaza e =>
    have moved : relinkeado sb md5 s c i = some e := by simp [relinkeado, dec]
    have same : e = b := by simpa [ligado, moved] using hl
    subst same
    obtain ⟨a', ha', _, named⟩ := decision_reemplaza dec
    cases ha.symm.trans ha'
    rw [truth e moved a ha]
    exact representante_mono (by omega) named
  | restaura => exact (noRestore dec).elim
  | sinLink =>
    have changed : decision sb md5 s c i ≠ .conserva := by simp [dec]
    obtain ⟨_, _, _, _, _, _, shape⟩ := decision_link changed
    rw [dec, listed] at shape
    simp only [reduceCtorEq, if_false] at shape
    split at shape <;> contradiction

theorem indiceCompleto_trasPedido (p : Pedido) (sano : Sano sb s)
    (all : IndiceCompleto sb md5 s) (guard : PedidoCompleto sb md5 s p) :
    IndiceCompleto sb md5 (trasPedido sb md5 s p) := by
  intro g i b committed
  by_cases isCommit : ∃ f, p = .commit f
  · obtain ⟨f, rfl⟩ := isCommit
    rcases commit_cases sb md5 f sano with ⟨same, _⟩ | ⟨c, unprotected, hc, open_, done⟩
    · rw [same] at committed ⊢
      exact all g i b committed
    · have hash : hashDeBloque sb md5 (trasPedido sb md5 s (.commit f)) b =
          hashDeBloque sb md5 s b := by
        rw [hashDeBloque, done.datos, hashDeBloque]
      rw [hash]
      obtain ⟨noBase, c', hc', closed, hi, hl⟩ := committed
      by_cases target : g = f
      · subst target
        obtain ⟨l, hl', links⟩ := done.carpeta
        cases hl'.symm.trans hc'
        refine indice_commit (i := i) done hc sano (guard unprotected c hc open_) ?_
          ((links i).symm.trans hl)
        dsimp only at hi
        split at hi
        · simpa using hi
        · exact hi
      · rw [done.otros g target] at hc'
        have known := all g i b ⟨noBase, c', hc', closed, hi, hl⟩
        rw [done.indice, representante, known, Option.some_or]
  · have noCommit : ∀ f, p ≠ .commit f := fun f hf => isCommit ⟨f, hf⟩
    obtain ⟨data, index⟩ := trasPedido_datos md5 p sano
    have before := bloqueCommiteado_antes noCommit sano committed
    have fresh : SinCommitear s (tomables sb s p) := by
      cases p with
      | commit f => exact (noCommit f rfl).elim
      | _ => exact guard
    have outside : b ∉ tomables sb s p := by
      intro taken
      obtain ⟨_, c, hc, closed, _, hl⟩ := before
      have open_ := fresh b taken (g, i, b) (mem_allLinks.mpr ⟨c, hc, hl⟩) rfl
      simp [verificarSiCommited, hc, closed] at open_
    rw [hashDeBloque, data b outside, index noCommit]
    exact all g i b before

theorem indiceCompleto_formatearFs (sb : Superbloque) (md5 : Bytes → Hash) :
    IndiceCompleto sb md5 (formatearFs sb : Storage Hash) := by
  rintro f i b ⟨noBase, c, hc, _⟩
  rw [lookup_formatearFs, if_neg noBase] at hc
  contradiction

/-- Committed blocks with equal contents are one block in every state of a run whose requests
    meet the condition. -/
theorem commits_completos_comparten_bloques (sb : Superbloque) (md5 : Bytes → Hash)
    {ps : List Pedido}
    (safe : Along (trasPedido sb md5) (PedidoCompleto sb md5) (formatearFs sb) ps) :
    ∀ pre, pre <+: ps → Deduplicado sb (trasPedidos sb md5 pre) := by
  intro pre hp
  have reached := invariant_on_prefixes (fun s => Sano sb s ∧ IndiceCompleto sb md5 s)
    (fun s p inv guard => ⟨sano_trasPedido p inv.1,
      indiceCompleto_trasPedido p inv.1 inv.2 guard⟩)
    ⟨sano_formatearFs sb, indiceCompleto_formatearFs sb md5⟩ safe pre hp
  exact deduplicado_of_indice reached.2

/-- B:1, its tag B:2 and A:1 hold the same byte, and all are committed. -/
def tresIguales : List Pedido :=
  nuevoCon a1 120 ++ nuevoCon b1 120 ++ [.commit a1, .commit b1, .tag b1 b2, .commit b2]

theorem commits_completos_comparten_bloques_corrida :
    Along (trasPedido discoDeSeis id) (PedidoCompleto discoDeSeis id) (formatearFs discoDeSeis)
        tresIguales ∧
      ∀ pre, pre <+: tresIguales → Deduplicado discoDeSeis (trasPedidos discoDeSeis id pre) :=
  ⟨by decide, commits_completos_comparten_bloques discoDeSeis id (by decide)⟩

/-- The index names block 1 for the contents of all three, and DELETE of A:1 removes it: the
    COMMITs of B:1 and C:1 put their links back. -/
def indiceSinBloque : List Pedido :=
  nuevoCon a1 120 ++ nuevoCon b1 120 ++ nuevoCon c1 120 ++
    [.commit a1, .eliminar a1, .commit b1, .commit c1]

theorem bloque_de_indice_ausente_deja_copias :
    Function.Injective (id : Bytes → Bytes) ∧
      ¬ Deduplicado discoDeSeis (trasPedidos discoDeSeis id indiceSinBloque) := by
  refine ⟨Function.injective_id, fun shared => ?_⟩
  have committed : ∀ f b, f ≠ initialFileBase →
      ((trasPedidos discoDeSeis id indiceSinBloque).carpetas.lookup f).map
        (fun c => (c.estado, c.blocks.length, c.logicos.lookup 0)) =
          some (.commited, 1, some b) →
      BloqueCommiteado (trasPedidos discoDeSeis id indiceSinBloque) f 0 b := by
    intro f b noBase h
    obtain ⟨c, hc, fields⟩ := Option.map_eq_some_iff.mp h
    simp only [Prod.mk.injEq] at fields
    exact ⟨noBase, c, hc, fields.1, by omega, fields.2.2⟩
  have same := shared b1 0 2 c1 0 3 (committed b1 2 (by decide) (by decide))
    (committed c1 3 (by decide) (by decide)) (by decide)
  omega

end StorageDeduplicados
