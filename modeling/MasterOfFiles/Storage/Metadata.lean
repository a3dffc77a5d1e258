import MasterOfFiles.Storage.Efectos

/-!
Metadata and hard links agree as long as no FLUSH stops halfway and no COMMIT loses
se_modifico_metadata after moving a link.
-/
namespace StorageMetadata
open StorageEstado StorageArchivos StorageEscritura StoragePrimitivas StoragePasos
open StoragePedidos StorageDeduplicacion StorageAcuerdo StorageMovidas StorageEfectos
open LinkDirectory FirstFit GuardedRuns

variable {Hash : Type}

/-- Every page of the packet can be moved, or none can. -/
def FlushEntero (sb : Superbloque) (s : Storage Hash) (c : Carpeta) (paginas : List Pagina)
    (cantidad : Int) : Prop :=
  ((∀ p ∈ paginas.take cantidad.toNat, EnRango sb c p.1) ∧
      cantidad.toNat ≤ paginas.length ∧
      (paginas.take cantidad.toNat).length ≤ (freeSlots sb.cantidadBloques s.bitmap).length) ∨
    (∀ p ∈ paginas.take cantidad.toNat, ¬ EnRango sb c p.1) ∨
    freeSlots sb.cantidadBloques s.bitmap = []

def paginasEnRango (sb : Superbloque) (c : Carpeta) (paginas : List Pagina) (cantidad : Int) :
    List Pagina :=
  (paginas.take cantidad.toNat).filter fun p => EnRango sb c p.1

instance (sb : Superbloque) (s : Storage Hash) (c : Carpeta) (paginas : List Pagina)
    (cantidad : Int) : Decidable (FlushEntero sb s c paginas cantidad) :=
  inferInstanceAs (Decidable ((_ ∧ _ ∧ _) ∨ _ ∨ _))

variable {sb : Superbloque} {s s' : Storage Hash} {f : FileTag} {c : Carpeta}
  {movs : List (Nat × Nat)}

theorem metadataAcorde_of_target (all : MetadataAcorde sb s)
    (otras : ∀ g, g ≠ f → s'.carpetas.lookup g = s.carpetas.lookup g)
    (propia : ∀ c, s'.carpetas.lookup f = some c → Acorde sb f c) : MetadataAcorde sb s' := by
  intro g c hc
  by_cases hg : g = f
  · subst hg
    exact propia c hc
  · rw [otras g hg] at hc
    exact all g c hc

theorem metadataAcorde_ponerCarpeta (all : MetadataAcorde sb s) (agree : Acorde sb f c) :
    MetadataAcorde sb (s.ponerCarpeta f c) := by
  refine metadataAcorde_of_target all (f := f)
    (fun g hg => by rw [lookup_ponerCarpeta, if_neg hg]) ?_
  intro c' hc'
  rw [lookup_ponerCarpeta, if_pos rfl] at hc'
  cases hc'
  exact agree

theorem metadataAcorde_formatearFs (sb : Superbloque) :
    MetadataAcorde sb (formatearFs sb : Storage Hash) := by
  intro f c hc
  rw [lookup_formatearFs] at hc
  split at hc
  · rename_i hf
    cases hc
    refine ⟨?_, fun noBase => (noBase hf).elim⟩
    intro i
    have hs := lookup_insert_ite (∅ : Dir Nat Nat) 0 i 0
    rw [AList.insert_empty, AList.lookup_empty] at hs
    rw [carpetaBase, hs]
    cases i <;> rfl
  · contradiction

theorem acorde_movida (agree : Acorde sb f c)
    (h : Movida sb s f c (ponerTodos c.blocks movs) movs s') {c' : Carpeta}
    (hc' : s'.carpetas.lookup f = some c') : Acorde sb f c' := by
  obtain ⟨l, links, at_⟩ := h.carpeta
  rw [links.propia] at hc'
  cases hc'
  exact ⟨at_, fun noBase => (ponerTodos_length c.blocks movs).trans (agree.2 noBase)⟩

theorem flushEntero_efecto (sano : Sano sb s) (unprotected : esProtegido f = false)
    (hc : s.carpetas.lookup f = some c) (open_ : c.estado ≠ .commited) (agree : Acorde sb f c)
    {paginas : List Pagina} {cantidad : Int} (whole : FlushEntero sb s c paginas cantidad) :
    ∃ moved : List (Pagina × Nat),
      (moved = [] ∨ moved.map Prod.fst = paginasEnRango sb c paginas cantidad) ∧
      Movida sb s f c (ponerTodos c.blocks (moved.map movimiento)) (moved.map movimiento)
        (flushArchivo sb s f paginas cantidad).2 := by
  obtain ⟨moved, sub, range, full, ok, done, _⟩ :=
    flushArchivo_efecto sb sano.fisicos unprotected hc open_ agree.1 paginas cantidad
  have none_ : moved = [] → Movida sb s f c (ponerTodos c.blocks (moved.map movimiento))
      (moved.map movimiento) (flushArchivo sb s f paginas cantidad).2 := by
    rintro rfl
    simpa [ponerTodos] using done
  refine ⟨moved, ?_⟩
  rcases whole with ⟨inRange, complete, space⟩ | outside | noSpace
  · have all : moved.map Prod.fst = paginas.take cantidad.toNat := by
      rcases full inRange with all | empty
      · exact all
      · refine sub.eq_of_length_le ?_
        have taken := congrArg List.length done.tomados
        simp only [empty, List.append_nil, List.length_map] at taken
        simpa [← taken] using space
    rw [ok.mpr ⟨all, complete⟩] at done
    refine ⟨.inr (all.trans ?_), done⟩
    rw [paginasEnRango, List.filter_eq_self.mpr fun p hp => decide_eq_true (inRange p hp)]
  · have still : moved = [] := by
      cases moved with
      | nil => rfl
      | cons m rest => exact (outside m.1 (sub.subset (by simp)) (range m (by simp))).elim
    exact ⟨.inl still, none_ still⟩
  · have still : moved = [] := by
      have taken := done.tomados
      rw [noSpace] at taken
      simpa using (List.append_eq_nil_iff.mp taken.symm).1
    exact ⟨.inl still, none_ still⟩

variable [DecidableEq Hash]

/-- A link put back because the other block is gone, after some link was moved, is followed
    by another move. -/
def CommitGuarda (sb : Superbloque) (md5 : Bytes → Hash) (s : Storage Hash) (c : Carpeta) :
    Prop :=
  ∀ k < c.blocks.length, decision sb md5 s c k = .restaura →
    (∃ i < k, (decision sb md5 s c i).mueve = true) →
    ∃ m < c.blocks.length, k < m ∧ (decision sb md5 s c m).mueve = true

instance (sb : Superbloque) (md5 : Bytes → Hash) (s : Storage Hash) (c : Carpeta) :
    Decidable (CommitGuarda sb md5 s c) :=
  inferInstanceAs (Decidable (∀ k < _, _ → (∃ i < _, _) → ∃ m < _, _ ∧ _))

def PedidoEntero (sb : Superbloque) (md5 : Bytes → Hash) (s : Storage Hash) : Pedido → Prop
  | .flush f paginas cantidad => esProtegido f = false → ∀ c ∈ s.carpetas.lookup f,
      c.estado ≠ .commited → FlushEntero sb s c paginas cantidad
  | .commit f => esProtegido f = false → ∀ c ∈ s.carpetas.lookup f,
      c.estado ≠ .commited → CommitGuarda sb md5 s c
  | _ => True

instance (sb : Superbloque) (md5 : Bytes → Hash) (s : Storage Hash) :
    ∀ p, Decidable (PedidoEntero sb md5 s p)
  | .commit _ | .flush _ _ _ => inferInstanceAs (Decidable (_ → ∀ c ∈ _, _ → _))
  | .crear _ | .truncar _ _ | .tag _ _ | .escribir _ _ _ | .eliminar _ =>
    inferInstanceAs (Decidable True)

variable {md5 : Bytes → Hash}

theorem modificado_false {n i : Nat} (flag : modificado sb md5 s c n = false) (hi : i < n)
    (moves : (decision sb md5 s c i).mueve = true) :
    ∃ k < n, i < k ∧ decision sb md5 s c k = .restaura ∧
      ∀ m < n, k < m → (decision sb md5 s c m).mueve = false := by
  induction n with
  | zero => omega
  | succ n ih =>
    rw [modificado] at flag
    cases dec : decision sb md5 s c n with
    | conserva =>
      simp only [dec] at flag
      have ne : i ≠ n := by
        rintro rfl
        simp [dec, Decision.mueve] at moves
      obtain ⟨k, hk, ik, put, last⟩ := ih flag (by omega)
      refine ⟨k, by omega, ik, put, ?_⟩
      intro m hm km
      rcases Nat.lt_succ_iff_lt_or_eq.mp hm with lt | rfl
      · exact last m lt km
      · simp [dec, Decision.mueve]
    | restaura =>
      have ne : i ≠ n := by
        rintro rfl
        simp [dec, Decision.mueve] at moves
      exact ⟨n, by omega, by omega, dec, fun m hm nm => by omega⟩
    | sinLink => simp [dec] at flag
    | reemplaza e => simp [dec] at flag

theorem nuevoBloque_of_stays {i : Nat} (stays : (decision sb md5 s c i).mueve = false) :
    nuevoBloque sb md5 s c i = c.blocks.getD i 0 := by
  unfold nuevoBloque
  split
  · rename_i e dec
    simp [dec, Decision.mueve] at stays
  · rfl

theorem ligado_eq (agree : Acorde sb f c) {i : Nat} (hi : i < c.blocks.length) :
    ligado sb md5 s c i = some (nuevoBloque sb md5 s c i) := by
  have entry : c.blocks[i]? = some (c.blocks.getD i 0) := by simp [hi]
  unfold ligado relinkeado nuevoBloque
  cases dec : decision sb md5 s c i with
  | reemplaza e => rfl
  | restaura => simp only [entry, Option.some_or]
  | conserva => simp only [Option.none_or, agree.1, entry]
  | sinLink => simp only [Option.none_or, agree.1, entry]

theorem acorde_commit (agree : Acorde sb f c) (keeps : CommitGuarda sb md5 s c)
    (done : CommitHecho sb md5 s f c s') {c' : Carpeta}
    (hc' : s'.carpetas.lookup f = some c') : Acorde sb f c' := by
  obtain ⟨l, hl, links⟩ := done.carpeta
  rw [hl] at hc'
  cases hc'
  cases flag : modificado sb md5 s c c.blocks.length with
  | true =>
    refine ⟨?_, ?_⟩
    · intro i
      rw [links]
      by_cases hi : i < c.blocks.length
      · simp [ligado_eq agree hi, hi]
      · rw [ligado_fuera (Nat.le_of_not_lt hi), agree.1]
        simp [hi]
    · intro noBase
      simpa using agree.2 noBase
  | false =>
    refine ⟨?_, by simpa using agree.2⟩
    intro i
    rw [links]
    by_cases hi : i < c.blocks.length
    · have stays : (decision sb md5 s c i).mueve = false := by
        by_contra moves
        obtain ⟨k, hk, ik, put, last⟩ := modificado_false flag hi (by simpa using moves)
        obtain ⟨m, hm, km, again⟩ := keeps k hk put ⟨i, ik, by simpa using moves⟩
        rw [last m hm km] at again
        contradiction
      simp [ligado_eq agree hi, nuevoBloque_of_stays stays, hi]
    · rw [ligado_fuera (Nat.le_of_not_lt hi), agree.1]
      simp

theorem metadataAcorde_trasPedido (p : Pedido) (sano : Sano sb s) (all : MetadataAcorde sb s)
    (guard : PedidoEntero sb md5 s p) : MetadataAcorde sb (trasPedido sb md5 s p) := by
  have effect := trasPedido_efecto md5 p sano all
  generalize trasPedido sb md5 s p = s' at effect
  cases effect with
  | nada => exact all
  | crear f new =>
    exact metadataAcorde_ponerCarpeta all
      ⟨fun i => by simp, fun _ => (bloquesLogicos_zero sb).symm⟩
  | tag origen destino c there unprotected new =>
    have source := all origen c there
    exact metadataAcorde_ponerCarpeta all
      ⟨source.1, fun _ => source.2 (sin_proteger_ne_inicial unprotected)⟩
  | truncar f tamanio c open_ l s' links list freed =>
    refine metadataAcorde_of_target all links.otras ?_
    intro c' hc'
    rw [links.propia] at hc'
    cases hc'
    exact ⟨list, fun _ => bloquesFinales_length _ _⟩
  | escribir f bloque contenido c open_ range nuevo s' moved =>
    obtain ⟨l, links, _⟩ := moved.carpeta
    exact metadataAcorde_of_target all links.otras fun c' hc' =>
      acorde_movida (all f c open_.esta) moved hc'
  | flush f paginas cantidad c open_ =>
    obtain ⟨moves, _, moved⟩ := flushEntero_efecto sano open_.libre open_.esta open_.enCurso
      (all f c open_.esta) (guard open_.libre c open_.esta open_.enCurso)
    obtain ⟨l, links, _⟩ := moved.carpeta
    exact metadataAcorde_of_target all links.otras fun c' hc' =>
      acorde_movida (all f c open_.esta) moved hc'
  | commit f c open_ s' done =>
    exact metadataAcorde_of_target all done.otros fun c' hc' => acorde_commit
      (all f c open_.esta) (guard open_.libre c open_.esta open_.enCurso) done hc'
  | eliminar f c unprotected there s' folders freed =>
    refine metadataAcorde_of_target all (f := f) (fun g hg => by rw [folders, if_neg hg]) ?_
    intro c' hc'
    rw [folders, if_pos rfl] at hc'
    contradiction

/-- In a run without halfway FLUSHes and flag-losing COMMITs, BLOCKS and the hard links of
    every File:Tag agree in every state reached. -/
theorem pedidos_enteros_conservan_metadata (sb : Superbloque) (md5 : Bytes → Hash)
    {ps : List Pedido}
    (entire : Along (trasPedido sb md5) (PedidoEntero sb md5) (formatearFs sb) ps) :
    ∀ pre, pre <+: ps → MetadataAcorde sb (trasPedidos sb md5 pre) := by
  intro pre hp
  have reached := invariant_on_prefixes (fun s => Sano sb s ∧ MetadataAcorde sb s)
    (fun s p inv guard =>
      ⟨sano_trasPedido p inv.1, metadataAcorde_trasPedido p inv.1 inv.2 guard⟩)
    ⟨sano_formatearFs sb, metadataAcorde_formatearFs sb⟩ entire pre hp
  exact reached.2

def historiaEntera : List Pedido :=
  nuevoCon a1 120 ++ [.flush a1 [(0, [121])] 1] ++ nuevoCon b1 121 ++ [.commit a1, .commit b1]

theorem pedidos_enteros_conservan_metadata_corrida :
    Along (trasPedido discoDeSeis id) (PedidoEntero discoDeSeis id) (formatearFs discoDeSeis)
        historiaEntera ∧
      ∀ pre, pre <+: historiaEntera →
        MetadataAcorde discoDeSeis (trasPedidos discoDeSeis id pre) :=
  ⟨by decide, pedidos_enteros_conservan_metadata discoDeSeis id (by decide)⟩

/-- The second page of the FLUSH is out of range, after the first one was moved. -/
def flushAMedias : List Pedido :=
  [.crear a1, .truncar a1 1, .flush a1 [(0, [120]), (5, [121])] 2]

theorem flush_a_medias_separa_metadata :
    ¬ MetadataAcorde discoDeSeis (trasPedidos discoDeSeis id flushAMedias) := by
  intro h
  have moved : (trasPedidos discoDeSeis id flushAMedias).destino a1 0 = some 1 := by decide
  have listed : ((trasPedidos discoDeSeis id flushAMedias).carpetas.lookup a1).bind
      (fun c => c.blocks[0]?) = some 0 := by decide
  obtain ⟨c, hc, hl⟩ := destino_some.mp moved
  rw [hc, Option.bind_some, ← (h a1 c hc).1 0, hl] at listed
  exact absurd listed (by decide)

end StorageMetadata
