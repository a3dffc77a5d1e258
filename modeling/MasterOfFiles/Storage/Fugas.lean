import MasterOfFiles.Storage.Metadata

/-!
Blocks marked used and linked by nobody. The link count of a logical block is never 1, it
counts the physical path too, so every write takes a new block; the old one leaks unless
some other logical block keeps it.
-/
namespace StorageFugas
open StorageEstado StorageArchivos StorageEscritura StoragePrimitivas StoragePasos
open StoragePedidos StorageDeduplicacion StorageAcuerdo StorageMovidas StorageEfectos
open StorageMetadata LinkDirectory FirstFit GuardedRuns

variable {Hash : Type}

def SinFugas (s : Storage Hash) : Prop :=
  ∀ b, 1 ≤ b → s.bitmap b = true → s.Enlazado b

/-- The logical blocks `pos` of f can be moved at once: they are distinct and each block
    they leave, but block 0, has a link out of them. -/
def Reemplazable (s : Storage Hash) (f : FileTag) (c : Carpeta) (pos : List Nat) : Prop :=
  pos.Nodup ∧ ∀ i ∈ pos, ∀ b ∈ c.blocks[i]?, b = 0 ∨
    ∃ l ∈ allLinks Carpeta.logicos s.carpetas, l.2.2 = b ∧ ¬ (l.1 = f ∧ l.2.1 ∈ pos)

instance (s : Storage Hash) (f : FileTag) (c : Carpeta) (pos : List Nat) :
    Decidable (Reemplazable s f c pos) :=
  inferInstanceAs (Decidable (_ ∧ ∀ i ∈ pos, ∀ b ∈ c.blocks[i]?, _ ∨ ∃ l ∈ _, _ ∧ ¬ _))

variable {sb : Superbloque} {s s' : Storage Hash} {f g : FileTag} {c : Carpeta} {i b : Nat}
  {movs : List (Nat × Nat)}

theorem reemplazable_nil : Reemplazable s f c [] := ⟨List.nodup_nil, by simp⟩

theorem sinFugas_movida (agree : Acorde sb f c) (hc : s.carpetas.lookup f = some c)
    (h : Movida sb s f c (ponerTodos c.blocks movs) movs s') (tight : SinFugas s)
    (kept : Reemplazable s f c (movs.map Prod.fst)) : SinFugas s' := by
  obtain ⟨l, links, at_⟩ := h.carpeta
  have stays : ∀ g j x, s.destino g j = some x → ¬ (g = f ∧ j ∈ movs.map Prod.fst) →
      s'.Enlazado x := by
    intro g j x hd out
    refine ⟨g, j, ?_⟩
    rw [destino_conLinks links]
    split
    · rename_i hg
      subst hg
      rw [at_, ponerTodos_get_otro _ fun hj => out ⟨rfl, hj⟩, ← destino_listado agree.1 hc, hd]
    · exact hd
  intro b hb used
  rcases (h.bits b).mp used with old | new
  · obtain ⟨g, j, hd⟩ := tight b hb old
    by_cases mine : g = f ∧ j ∈ movs.map Prod.fst
    · obtain ⟨rfl, hj⟩ := mine
      rw [destino_listado agree.1 hc] at hd
      rcases kept.2 j hj b hd with zero | ⟨⟨g', j', x⟩, hl, rfl, out⟩
      · omega
      · exact stays g' j' x (destino_some.mpr (mem_allLinks.mp hl)) out
    · exact stays g j b hd mine
  · obtain ⟨⟨i, n⟩, hm, rfl⟩ := List.mem_map.mp new
    refine ⟨f, i, ?_⟩
    rw [destino_of_lookup links.propia, at_,
      ponerTodos_get_mem c.blocks kept.1 hm (h.rango _ hm)]

theorem sinFugas_liberacion {quitados : Nat → Prop} (freed : Liberacion s quitados s')
    (tight : SinFugas s)
    (stays : ∀ g j b, s.destino g j = some b → ¬ quitados b → s'.Enlazado b) :
    SinFugas s' := by
  intro b hb used
  obtain ⟨old, out⟩ := freed.bits b used
  by_cases taken : quitados b
  · exact out taken
  · obtain ⟨g, j, hd⟩ := tight b hb old
    exact stays g j b hd taken

theorem sinFugas_formatearFs (sb : Superbloque) : SinFugas (formatearFs sb : Storage Hash) := by
  intro b hb used
  have zero : b = 0 := eq_of_beq used
  omega

theorem enlazado_ponerCarpeta_new (new : s.carpetas.lookup f = none) (c : Carpeta)
    (h : s.Enlazado b) : (s.ponerCarpeta f c).Enlazado b := by
  obtain ⟨g, j, hd⟩ := h
  refine ⟨g, j, ?_⟩
  rw [destino_ponerCarpeta]
  split
  · rename_i hg
    subst hg
    simp [Storage.destino, new] at hd
  · exact hd

variable [DecidableEq Hash] {md5 : Bytes → Hash}

theorem sinFugas_commit (agree : Acorde sb f c) (hc : s.carpetas.lookup f = some c)
    (done : CommitHecho sb md5 s f c s') (tight : SinFugas s) : SinFugas s' := by
  intro b hb used
  obtain ⟨old, kept⟩ := (done.bits b).mp used
  obtain ⟨g, j, hd⟩ := tight b hb old
  refine ⟨g, j, ?_⟩
  rw [destino_commit done hc]
  split
  · rename_i hg
    subst hg
    have listed : c.blocks[j]? = some b := (destino_listado agree.1 hc j).symm.trans hd
    have inside : j < c.blocks.length := (List.getElem?_eq_some_iff.mp listed).1
    -- a moved link would have freed b
    have still : (decision sb md5 s c j).mueve = false := by
      by_contra moves
      exact kept ⟨j, inside, by simpa using moves, listed⟩
    cases dec : decision sb md5 s c j with
    | reemplaza e => simp [dec, Decision.mueve] at still
    | restaura => simp [relinkeado, dec, listed]
    | conserva => simp [relinkeado, dec, hd]
    | sinLink => simp [relinkeado, dec, hd]
  · exact hd

def PedidoSinFuga (sb : Superbloque) (md5 : Bytes → Hash) (s : Storage Hash) : Pedido → Prop
  | .escribir f bloque _ => esProtegido f = false → ∀ c ∈ s.carpetas.lookup f,
      c.estado ≠ .commited → EnRango sb c bloque → freeSlots sb.cantidadBloques s.bitmap ≠ [] →
      Reemplazable s f c [bloque.toNat]
  | .flush f paginas cantidad => esProtegido f = false → ∀ c ∈ s.carpetas.lookup f,
      c.estado ≠ .commited → FlushEntero sb s c paginas cantidad ∧
        (freeSlots sb.cantidadBloques s.bitmap ≠ [] → Reemplazable s f c
          ((paginasEnRango sb c paginas cantidad).map fun p => p.1.toNat))
  | p => PedidoEntero sb md5 s p

instance (sb : Superbloque) (md5 : Bytes → Hash) (s : Storage Hash) :
    ∀ p, Decidable (PedidoSinFuga sb md5 s p)
  | .escribir _ _ _ => inferInstanceAs (Decidable (_ → ∀ c ∈ _, _ → _ → _ → _))
  | .flush _ _ _ => inferInstanceAs (Decidable (_ → ∀ c ∈ _, _ → _ ∧ (_ → _)))
  | .commit f => inferInstanceAs (Decidable (PedidoEntero sb md5 s (.commit f)))
  | .crear _ | .truncar _ _ | .tag _ _ | .eliminar _ => inferInstanceAs (Decidable True)

theorem pedidoEntero_of_sinFuga (p : Pedido) (h : PedidoSinFuga sb md5 s p) :
    PedidoEntero sb md5 s p := by
  cases p with
  | flush f paginas cantidad => exact fun hp c hc open_ => (h hp c hc open_).1
  | commit f => exact h
  | _ => trivial

theorem sinFugas_trasPedido (p : Pedido) (sano : Sano sb s) (all : MetadataAcorde sb s)
    (tight : SinFugas s) (guard : PedidoSinFuga sb md5 s p) :
    SinFugas (trasPedido sb md5 s p) := by
  have effect := trasPedido_efecto md5 p sano all
  generalize trasPedido sb md5 s p = s' at effect
  cases effect with
  | nada => exact tight
  | crear f new => exact fun b hb used => enlazado_ponerCarpeta_new new _ (tight b hb used)
  | tag origen destino c there unprotected new =>
    exact fun b hb used => enlazado_ponerCarpeta_new new _ (tight b hb used)
  | truncar f tamanio c open_ l s' links list freed =>
    refine sinFugas_liberacion freed tight ?_
    intro g j b hd kept
    refine ⟨g, j, ?_⟩
    rw [destino_conLinks links]
    split
    · rename_i hg
      subst hg
      rw [destino_listado (all g c open_.esta).1 open_.esta] at hd
      have inside : j < c.blocks.length := (List.getElem?_eq_some_iff.mp hd).1
      have short : j < sb.bloquesLogicos tamanio := by
        by_contra long
        exact kept ⟨j, Nat.le_of_not_lt long, hd⟩
      rw [list, bloquesFinales_get, if_pos short, if_pos inside, hd]
    · exact hd
  | escribir f bloque contenido c open_ range nuevo s' moved =>
    have agree := all f c open_.esta
    have space : freeSlots sb.cantidadBloques s.bitmap ≠ [] := by
      rw [moved.tomados]
      simp
    exact sinFugas_movida agree open_.esta moved tight
      (guard open_.libre c open_.esta open_.enCurso range space)
  | flush f paginas cantidad c open_ =>
    have agree := all f c open_.esta
    obtain ⟨whole, kept⟩ := guard open_.libre c open_.esta open_.enCurso
    obtain ⟨moves, which, moved⟩ :=
      flushEntero_efecto sano open_.libre open_.esta open_.enCurso agree whole
    refine sinFugas_movida agree open_.esta moved tight ?_
    cases moves with
    | nil => exact reemplazable_nil
    | cons m rest =>
      have all_ := which.resolve_left (by simp)
      have ready := kept (by rw [moved.tomados]; simp)
      rw [← all_, List.map_map] at ready
      rwa [List.map_map]
  | commit f c open_ s' done => exact sinFugas_commit (all f c open_.esta) open_.esta done tight
  | eliminar f c unprotected there s' folders freed =>
    refine sinFugas_liberacion freed tight ?_
    intro g j b hd kept
    refine ⟨g, j, ?_⟩
    have other : g ≠ f := by
      rintro rfl
      rw [destino_listado (all g c there).1 there] at hd
      exact kept (List.mem_of_getElem? hd)
    simpa only [Storage.destino, folders, if_neg other] using hd

/-- In a run whose requests all keep a link on the blocks they leave, no state reached has
    a block marked used that nobody links. -/
theorem pedidos_sin_fuga_nada_pierden (sb : Superbloque) (md5 : Bytes → Hash)
    {ps : List Pedido}
    (safe : Along (trasPedido sb md5) (PedidoSinFuga sb md5) (formatearFs sb) ps) :
    ∀ pre, pre <+: ps → SinFugas (trasPedidos sb md5 pre) := by
  intro pre hp
  have reached := invariant_on_prefixes
    (fun s => Sano sb s ∧ MetadataAcorde sb s ∧ SinFugas s)
    (fun s p inv guard => ⟨sano_trasPedido p inv.1,
      metadataAcorde_trasPedido p inv.1 inv.2.1 (pedidoEntero_of_sinFuga p guard),
      sinFugas_trasPedido p inv.1 inv.2.1 inv.2.2 guard⟩)
    ⟨sano_formatearFs sb, metadataAcorde_formatearFs sb, sinFugas_formatearFs sb⟩ safe pre hp
  exact reached.2.2

def escrituraConTag : List Pedido :=
  nuevoCon b1 120 ++ [.tag b1 b2, .escribir b1 0 [121], .commit b1, .eliminar b2]

theorem pedidos_sin_fuga_nada_pierden_corrida :
    Along (trasPedido discoDeSeis id) (PedidoSinFuga discoDeSeis id) (formatearFs discoDeSeis)
        escrituraConTag ∧
      ∀ pre, pre <+: escrituraConTag → SinFugas (trasPedidos discoDeSeis id pre) :=
  ⟨by decide, pedidos_sin_fuga_nada_pierden discoDeSeis id (by decide)⟩

/-- The second write of A:1 takes block 2 and leaves block 1 to nobody. -/
theorem segunda_escritura_pierde_bloque :
    ¬ SinFugas (trasPedidos discoDeSeis id (nuevoCon a1 120 ++ [.escribir a1 0 [121]])) := by
  intro h
  have linked := h 1 (by decide) (by decide)
  exact absurd linked (not_enlazado_iff.mp (by decide))

end StorageFugas
