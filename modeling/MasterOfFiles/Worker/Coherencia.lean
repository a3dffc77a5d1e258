import MasterOfFiles.Worker.Reemplazo

/-!
What the memory of a Worker relies on in Storage: a STORAGE_FLUSH that is accepted stores its
pages and touches nothing else. As long as no page sent is rejected, the pages that are not
modified hold what Storage holds.
-/
namespace WorkerCoherencia
open StorageEstado StorageEscritura WorkerMemoria WorkerPaginas WorkerReemplazo WriteBack Relation

variable {σ : Type} {srv : Servidor σ} {cfg : ConfigMemoria} {Bueno : σ → Prop}
  {mem mem' : Memoria} {n n' n'' : Nodo σ} {f g : Archivo} {k m : Nat} {e : EntradaPagina}
  {propios : Archivo → Prop}

structure Guardado (srv : Servidor σ) (f : FileTag) (ps : List Pagina) (s s' : σ) : Prop where
  escritas : ∀ p ∈ ps, srv.leerBloque s' f p.1 = some p.2
  ajenas : ∀ g k, (g ≠ f ∨ ∀ p ∈ ps, p.1 ≠ k) → srv.leerBloque s' g k = srv.leerBloque s g k

/-- Blocks have the size of a page, and a packet that is accepted or empty is stored. -/
structure Fiel (srv : Servidor σ) (cfg : ConfigMemoria) (Bueno : σ → Prop) : Prop where
  largo : ∀ s f k bloque, Bueno s → srv.leerBloque s f k = some bloque →
    bloque.length = cfg.tamanioPagina
  guarda : ∀ s f ps, Bueno s → Lote cfg ps →
    ((srv.flush s f ps ps.length).1 = true ∨ ps = []) →
    Bueno (srv.flush s f ps ps.length).2 ∧ Guardado srv f ps s (srv.flush s f ps ps.length).2

def SinPerdida (n : Nodo σ) : Prop := ∀ r ∈ n.rechazados, r.2 = []

structure Firme (srv : Servidor σ) (cfg : ConfigMemoria) (Bueno : σ → Prop) (n : Nodo σ) :
    Prop where
  ordenada : Ordenada cfg n.mem
  largas : ∀ q line, paginas n.mem q = some line → line.value.length = cfg.tamanioPagina
  bueno : Bueno n.storage
  coherente : Coherent (bloques srv n.storage) (paginas n.mem)
  respaldada : Backed (bloques srv n.storage) (paginas n.mem)

structure FirmeEn (srv : Servidor σ) (cfg : ConfigMemoria) (Bueno : σ → Prop)
    (propios : Archivo → Prop) (n : Nodo σ) : Prop where
  ordenada : Ordenada cfg n.mem
  largas : ∀ q line, paginas n.mem q = some line → line.value.length = cfg.tamanioPagina
  bueno : Bueno n.storage
  coherente : ∀ f, propios f → ∀ k, CoherentAt (bloques srv n.storage) (paginas n.mem) (f, k)
  respaldada : ∀ f, propios f → ∀ k, BackedAt (bloques srv n.storage) (paginas n.mem) (f, k)

theorem firme_iff :
    Firme srv cfg Bueno n ↔ FirmeEn srv cfg Bueno (fun _ => True) n :=
  ⟨fun h => ⟨h.ordenada, h.largas, h.bueno, fun f _ k => h.coherente (f, k),
      fun f _ k => h.respaldada (f, k)⟩,
    fun h => ⟨h.ordenada, h.largas, h.bueno, fun q => h.coherente q.1 trivial q.2,
      fun q => h.respaldada q.1 trivial q.2⟩⟩

theorem FirmeEn.mono {menos : Archivo → Prop} (h : FirmeEn srv cfg Bueno propios n)
    (fewer : ∀ f, menos f → propios f) : FirmeEn srv cfg Bueno menos n :=
  ⟨h.ordenada, h.largas, h.bueno, fun f hf => h.coherente f (fewer f hf),
    fun f hf => h.respaldada f (fewer f hf)⟩

/-- What a query sees of every File:Tag: the loaded page, or else the block. -/
def vista (srv : Servidor σ) (n : Nodo σ) : Archivo × Nat → Option Bytes :=
  view (bloques srv n.storage) (paginas n.mem)

/-- If the page is loaded and not modified, it holds what Storage holds. -/
abbrev PaginaAlDia (srv : Servidor σ) (n : Nodo σ) (q : Archivo × Nat) : Prop :=
  CoherentAt (bloques srv n.storage) (paginas n.mem) q

def MismaVista (srv : Servidor σ) (propios : Archivo → Prop) (n n' : Nodo σ) : Prop :=
  ∀ f, propios f → ∀ k, vista srv n' (f, k) = vista srv n (f, k)

theorem MismaVista.trans (first : MismaVista srv propios n n')
    (second : MismaVista srv propios n' n'') : MismaVista srv propios n n'' :=
  fun f hf k => (second f hf k).trans (first f hf k)

theorem paso_rechazados (step : Paso srv cfg n n') : n.rechazados <+: n'.rechazados := by
  cases step with
  | flush f =>
    simp only [flushPaginasModificadas]
    split
    · exact List.prefix_refl _
    · exact List.prefix_append _ _
  | _ => exact List.prefix_refl _

theorem sinPerdida_antes (h : n.rechazados <+: n'.rechazados) (whole : SinPerdida n') :
    SinPerdida n := fun r hr => whole r (h.subset hr)

theorem sinPerdida_of_ninguno (h : n.rechazados = []) : SinPerdida n := by
  intro p hp
  rw [h] at hp
  contradiction

theorem flush_acepta (srv : Servidor σ) (whole : SinPerdida (flushPaginasModificadas srv cfg n f).2) :
    (srv.flush n.storage f.val (paginasModificadas cfg n.mem f).2
        (paginasModificadas cfg n.mem f).2.length).1 = true ∨
      (paginasModificadas cfg n.mem f).2 = [] := by
  refine (Bool.eq_false_or_eq_true _).imp_right fun rejected => ?_
  refine whole (f.val, (paginasModificadas cfg n.mem f).2) ?_
  simp [flushPaginasModificadas, rejected]

theorem bloques_guardado (ord : Ordenada cfg mem) {s s' : σ}
    (stored_ : Guardado srv f.val (paginasModificadas cfg mem f).2 s s') :
    bloques srv s' = stored (fun q => q.1 = f) (bloques srv s) (paginas mem) := by
  funext ⟨g, k⟩
  simp only [bloques, stored]
  have untouched (clean : ∀ b, paginas mem (f, k) ≠ some ⟨b, true⟩) :
      ∀ p ∈ (paginasModificadas cfg mem f).2, p.1 ≠ (k : Int) := by
    intro p hp same
    obtain ⟨k', b, rfl, page⟩ := (mem_paquete ord).mp hp
    cases Int.ofNat.inj same
    exact clean b page
  by_cases hg : g = f
  · subst hg
    cases hc : paginas mem (g, k) with
    | none => exact stored_.ajenas g.val k (.inr (untouched fun b => by simp [hc]))
    | some line =>
      obtain ⟨b, dirty⟩ := line
      cases dirty with
      | false => exact stored_.ajenas g.val k (.inr (untouched fun b => by simp [hc]))
      | true => simpa using stored_.escritas _ ((mem_paquete ord).mpr ⟨k, b, rfl, hc⟩)
  · have other := stored_.ajenas g.val k (.inl fun same => hg (Subtype.ext same))
    split
    · simpa [hg] using other
    · exact other

theorem paso_largas (ord : Ordenada cfg n.mem) (step : Paso srv cfg n n')
    (largo : ∀ f k bloque, srv.leerBloque n.storage f k = some bloque →
      bloque.length = cfg.tamanioPagina)
    (sizes : ∀ q line, paginas n.mem q = some line → line.value.length = cfg.tamanioPagina) :
    ∀ q line, paginas n'.mem q = some line → line.value.length = cfg.tamanioPagina := by
  intro q line hl
  cases step with
  | orden mem same =>
    rw [paginas_mismas same] at hl
    exact sizes q line hl
  | flush f =>
    rw [flush_mem, paginas_modificadas ord f, cleaned] at hl
    split at hl
    · obtain ⟨old, hold, rfl⟩ := Option.map_eq_some_iff.mp hl
      exact sizes q old hold
    · exact sizes q line hl
  | libera m e he clean =>
    rw [paginas_liberarMarco ord he] at hl
    by_cases hq : q = (e.archivo, e.numeroPagina)
    · simp [hq] at hl
    · rw [Function.update_of_ne hq] at hl
      exact sizes q line hl
  | carga m f k bloque libre hm absent hb =>
    have size := largo f.val k bloque hb
    rw [paginas_registrar ord libre hm absent, List.take_of_length_le size.le] at hl
    by_cases hq : q = (f, k)
    · subst hq
      rw [Function.update_self, Option.some.injEq] at hl
      rw [← hl]
      exact size
    · rw [Function.update_of_ne hq] at hl
      exact sizes q line hl

theorem paso_upkeep (fiel : Fiel srv cfg Bueno) (step : Paso srv cfg n n') (whole : SinPerdida n')
    (firme : FirmeEn srv cfg Bueno propios n) :
    Bueno n'.storage ∧
      (∀ q line, paginas n'.mem q = some line → line.value.length = cfg.tamanioPagina) ∧
      ReflTransGen Upkeep (bloques srv n.storage, paginas n.mem)
        (bloques srv n'.storage, paginas n'.mem) := by
  have ord := firme.ordenada
  have largo := fun f k bloque => fiel.largo n.storage f k bloque firme.bueno
  have sizes := paso_largas ord step largo firme.largas
  cases step with
  | orden mem same =>
    refine ⟨firme.bueno, sizes, ?_⟩
    rw [paginas_mismas same]
  | flush f =>
    obtain ⟨good, stored_⟩ := fiel.guarda n.storage f.val _ firme.bueno
      (lote_paquete ord firme.largas) (flush_acepta srv whole)
    refine ⟨good, sizes, ?_⟩
    have after : bloques srv (flushPaginasModificadas srv cfg n f).2.storage =
        stored (fun q => q.1 = f) (bloques srv n.storage) (paginas n.mem) :=
      bloques_guardado ord stored_
    rw [flush_mem, paginas_modificadas ord f, after]
    exact .single (.writeBack _ _ _)
  | libera m e he clean =>
    refine ⟨firme.bueno, sizes, ?_⟩
    rw [paginas_liberarMarco ord he]
    exact .single (.drop (paginas_of_marco ord he) clean)
  | carga m f k bloque libre hm absent hb =>
    refine ⟨firme.bueno, sizes, ?_⟩
    rw [paginas_registrar ord libre hm absent, List.take_of_length_le (largo f.val k bloque hb).le]
    refine .single (.load ?_ hb)
    simp [paginas, absent]

theorem pasos_upkeep (fiel : Fiel srv cfg Bueno) (steps : Pasos srv cfg n n')
    (whole : SinPerdida n') (firme : FirmeEn srv cfg Bueno propios n) :
    FirmeEn srv cfg Bueno propios n' ∧
      ReflTransGen Upkeep (bloques srv n.storage, paginas n.mem)
        (bloques srv n'.storage, paginas n'.mem) := by
  induction steps with
  | refl => exact ⟨firme, .refl⟩
  | tail before step ih =>
    obtain ⟨middle, first⟩ := ih (sinPerdida_antes (paso_rechazados step) whole)
    obtain ⟨good, sizes, upkeep⟩ := paso_upkeep fiel step whole middle
    exact ⟨⟨ordenada_paso step middle.ordenada, sizes, good,
      fun f hf k => (upkeeps_at upkeep (middle.coherente f hf k)).1,
      fun f hf k => backedAt_upkeeps upkeep (middle.respaldada f hf k)⟩, first.trans upkeep⟩

theorem pasos_firme (fiel : Fiel srv cfg Bueno) (steps : Pasos srv cfg n n')
    (whole : SinPerdida n') (firme : FirmeEn srv cfg Bueno propios n) :
    FirmeEn srv cfg Bueno propios n' ∧ MismaVista srv propios n n' := by
  obtain ⟨firme', upkeep⟩ := pasos_upkeep fiel steps whole firme
  exact ⟨firme', fun f hf k => (upkeeps_at upkeep (firme.coherente f hf k)).2⟩

theorem pasos_aceptados {Ok : σ → Prop}
    (accepts : ∀ s f ps, Ok s → (srv.flush s f ps ps.length).1 = true ∧
      Ok (srv.flush s f ps ps.length).2)
    (steps : Pasos srv cfg n n') (ok : Ok n.storage) :
    n'.rechazados = n.rechazados ∧ Ok n'.storage := by
  induction steps with
  | refl => exact ⟨rfl, ok⟩
  | tail _ step ih =>
    obtain ⟨same, ok⟩ := ih
    cases step with
    | flush f =>
      obtain ⟨accepted, still⟩ := accepts _ f.val (paginasModificadas cfg _ f).2 ok
      exact ⟨by simpa [flushPaginasModificadas, accepted] using same, still⟩
    | _ => exact ⟨same, ok⟩

theorem firme_inicial {s : σ} (cfg : ConfigMemoria) (good : Bueno s) :
    Firme srv cfg Bueno ⟨crearMemoria cfg, s, []⟩ := by
  have empty : ∀ q, paginas (crearMemoria cfg) q = none := fun q => rfl
  refine ⟨ordenada_crearMemoria cfg, ?_, good, ?_, ?_⟩
  · intro q line hl
    simp [empty] at hl
  · intro q line hl
    simp [empty] at hl
  · intro q line hl
    simp [empty] at hl

end WorkerCoherencia
