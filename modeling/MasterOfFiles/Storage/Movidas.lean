import MasterOfFiles.Storage.Acuerdo

/-!
What WRITE_BLOCK and FLUSH do to a folder that agrees: each accepted page moves one
logical block to the first free physical block, in the order of the packet.
-/
namespace StorageMovidas
open StorageEstado StorageArchivos StorageEscritura StoragePrimitivas StoragePasos
open StorageAcuerdo LinkDirectory FirstFit

variable {Hash : Type}

def ponerTodos (blocks : List Nat) (movs : List (Nat × Nat)) : List Nat :=
  movs.foldl (fun bs m => bs.set m.1 m.2) blocks

/-- f was moved by `movs`, its folder lists `blocks`, and nothing else changed but the bits
    and the files of the blocks taken. -/
structure Movida (sb : Superbloque) (s : Storage Hash) (f : FileTag) (c : Carpeta)
    (blocks : List Nat) (movs : List (Nat × Nat)) (s' : Storage Hash) : Prop where
  carpeta : ∃ l, ConLinks s f ⟨c.tamanio, c.estado, blocks, l⟩ l s' ∧
    ∀ j, l.lookup j = (ponerTodos c.blocks movs)[j]?
  rango : ∀ m ∈ movs, m.1 < c.blocks.length
  tomados : freeSlots sb.cantidadBloques s.bitmap =
    movs.map Prod.snd ++ freeSlots sb.cantidadBloques s'.bitmap
  bits : ∀ b, s'.bitmap b = true ↔ s.bitmap b = true ∨ b ∈ movs.map Prod.snd
  existe : ∀ b, s'.existe b = true ↔ s.existe b = true ∨ b ∈ movs.map Prod.snd
  datos : ∀ b, b ∉ movs.map Prod.snd → s'.datos b = s.datos b
  indice : s'.indice = s.indice

variable {sb : Superbloque} {s s₁ s' : Storage Hash} {f g : FileTag} {c : Carpeta}
  {i b nuevo actual : Nat} {blocks : List Nat} {movs : List (Nat × Nat)}

theorem ponerTodos_append (blocks : List Nat) (movs : List (Nat × Nat)) (m : Nat × Nat) :
    ponerTodos blocks (movs ++ [m]) = (ponerTodos blocks movs).set m.1 m.2 := by
  simp only [ponerTodos, List.foldl_append, List.foldl_cons, List.foldl_nil]

theorem ponerTodos_length (blocks : List Nat) (movs : List (Nat × Nat)) :
    (ponerTodos blocks movs).length = blocks.length := by
  unfold ponerTodos
  induction movs generalizing blocks with
  | nil => rfl
  | cons m rest ih => rw [List.foldl_cons, ih, List.length_set]

theorem mem_ponerTodos {x : Nat} (h : x ∈ ponerTodos blocks movs) :
    x ∈ blocks ∨ x ∈ movs.map Prod.snd := by
  unfold ponerTodos at h
  induction movs generalizing blocks with
  | nil => exact .inl h
  | cons m rest ih =>
    rcases ih h with old | new
    · rcases List.mem_or_eq_of_mem_set old with kept | rfl
      · exact .inl kept
      · exact .inr (by simp)
    · exact .inr (List.mem_cons_of_mem m.2 new)

theorem ponerTodos_mem (hb : b ∈ ponerTodos blocks movs) :
    b ∈ blocks ∨ b ∈ movs.map Prod.snd := by
  unfold ponerTodos at hb
  induction movs generalizing blocks with
  | nil => exact .inl hb
  | cons m rest ih =>
    rcases ih hb with old | new
    · rcases List.mem_or_eq_of_mem_set old with old | rfl
      · exact .inl old
      · exact .inr List.mem_cons_self
    · exact .inr (List.mem_cons_of_mem _ new)

theorem ponerTodos_get_otro (blocks : List Nat) (h : i ∉ movs.map Prod.fst) :
    (ponerTodos blocks movs)[i]? = blocks[i]? := by
  unfold ponerTodos
  induction movs generalizing blocks with
  | nil => rfl
  | cons m rest ih =>
    simp only [List.map_cons, List.mem_cons, not_or] at h
    rw [List.foldl_cons, ih _ h.2, List.getElem?_set_ne (Ne.symm h.1)]

theorem ponerTodos_get_mem {n : Nat} (blocks : List Nat) (distinct : (movs.map Prod.fst).Nodup)
    (hm : (i, n) ∈ movs) (hi : i < blocks.length) :
    (ponerTodos blocks movs)[i]? = some n := by
  induction movs generalizing blocks with
  | nil => simp at hm
  | cons m rest ih =>
    rw [List.map_cons, List.nodup_cons] at distinct
    have step : ponerTodos blocks (m :: rest) = ponerTodos (blocks.set m.1 m.2) rest := rfl
    rw [step]
    rcases List.mem_cons.mp hm with rfl | hm
    · rw [ponerTodos_get_otro _ distinct.1, List.getElem?_set_self hi]
    · exact ih _ distinct.2 hm (by rwa [List.length_set])

theorem movida_refl (hc : s.carpetas.lookup f = some c) (listed : Listado c) :
    Movida sb s f c c.blocks [] s := by
  refine ⟨⟨c.logicos, ⟨hc, fun _ _ => rfl⟩, fun j => by rw [listed]; rfl⟩, ?_, ?_, ?_, ?_,
    fun _ _ => rfl, rfl⟩
  · simp
  · simp
  · simp
  · simp

theorem movida_paso (h : Movida sb s f c blocks movs s₁) (hi : i < c.blocks.length)
    (hn : firstFree sb.cantidadBloques s₁.bitmap = some nuevo) {c₁ : Carpeta}
    (hc₁ : s₁.carpetas.lookup f = some c₁) :
    Movida sb s f c blocks (movs ++ [(i, nuevo)])
      ((copiarFisico sb (s₁.ocupar nuevo) actual nuevo).ponerCarpeta f
        { c₁ with logicos := (c₁.logicos.erase i).insert i nuevo }) := by
  obtain ⟨l, links, at_⟩ := h.carpeta
  have same := links.propia
  rw [hc₁] at same
  cases same
  refine ⟨⟨(l.erase i).insert i nuevo, ⟨by simp [lookup_ponerCarpeta], ?_⟩, ?_⟩, ?_, ?_, ?_, ?_,
    ?_, h.indice⟩
  · intro g hg
    rw [lookup_ponerCarpeta, if_neg hg]
    exact links.otras g hg
  · intro j
    rw [lookup_insert_ite, lookup_erase_ite, at_, ponerTodos_append, List.getElem?_set]
    by_cases hj : j = i
    · subst hj
      simp [ponerTodos_length, hi]
    · simp [hj, Ne.symm hj]
  · intro m hm
    rcases List.mem_append.mp hm with old | new
    · exact h.rango m old
    · rw [List.mem_singleton.mp new]; exact hi
  · rw [h.tomados, freeSlots_after_take hn]
    simp only [List.map_append, List.map_cons, List.map_nil, List.append_assoc,
      List.singleton_append]
    rfl
  · intro x
    simp only [Storage.ponerCarpeta, copiarFisico_eq, Storage.ocupar, Function.update_apply,
      List.map_append, List.mem_append, List.map_cons, List.map_nil, List.mem_singleton]
    by_cases hx : x = nuevo
    · simp [hx]
    · simp [hx, h.bits]
  · intro x
    simp only [Storage.ponerCarpeta, copiarFisico_eq, Storage.ocupar, Function.update_apply,
      List.map_append, List.mem_append, List.map_cons, List.map_nil, List.mem_singleton]
    by_cases hx : x = nuevo
    · simp [hx]
    · simp [hx, h.existe]
  · intro x hx
    simp only [List.map_append, List.mem_append, List.map_cons, List.map_nil,
      List.mem_singleton, not_or] at hx
    simp only [Storage.ponerCarpeta, copiarFisico_eq, Storage.ocupar,
      Function.update_of_ne hx.2]
    exact h.datos x hx.1

theorem movida_guardarBlocks (h : Movida sb s f c blocks movs s₁) (nuevos : List Nat) :
    Movida sb s f c nuevos movs (guardarBlocks s₁ f nuevos) := by
  obtain ⟨l, links, at_⟩ := h.carpeta
  simp only [guardarBlocks, links.propia]
  refine ⟨⟨l, ⟨by simp [lookup_ponerCarpeta], ?_⟩, at_⟩, h.rango, h.tomados, h.bits, h.existe,
    h.datos, h.indice⟩
  intro g hg
  rw [lookup_ponerCarpeta, if_neg hg, links.otras g hg]

theorem movida_escribir (h : Movida sb s f c blocks movs s₁) (hb : b ∈ movs.map Prod.snd)
    (contenido : Bytes) : (escribirEnFinal s₁ b contenido).1 = true ∧
      Movida sb s f c blocks movs (escribirEnFinal s₁ b contenido).2 := by
  have he : s₁.existe b = true := (h.existe b).mpr (.inr hb)
  simp only [escribirEnFinal, Storage.escribirFisico, he, ↓reduceIte, true_and]
  obtain ⟨l, links, at_⟩ := h.carpeta
  refine ⟨⟨l, ⟨links.propia, links.otras⟩, at_⟩, h.rango, h.tomados, h.bits, h.existe, ?_,
    h.indice⟩
  intro x hx
  have ne : x ≠ b := by
    rintro rfl
    exact hx hb
  simp only [Function.update_of_ne ne]
  exact h.datos x hx

theorem movida_libres {blocks' : List Nat} (h : Movida sb s f c blocks movs s₁)
    (h' : Movida sb s f c blocks' movs s') :
    freeSlots sb.cantidadBloques s'.bitmap = freeSlots sb.cantidadBloques s₁.bitmap :=
  List.append_cancel_left (h'.tomados.symm.trans h.tomados)

theorem movida_persistir (h : Movida sb s f c blocks movs s₁) :
    Movida sb s f c blocks movs s₁.persistirBitmap := by
  obtain ⟨l, links, at_⟩ := h.carpeta
  exact ⟨⟨l, ⟨links.propia, links.otras⟩, at_⟩, h.rango, h.tomados, h.bits, h.existe, h.datos,
    h.indice⟩

def EnRango (sb : Superbloque) (c : Carpeta) (bloque : Int) : Prop :=
  ¬ (bloque < 0 ∨ (sb.bloquesLogicos c.tamanio : Int) ≤ bloque) ∧ bloque.toNat < c.blocks.length

instance (sb : Superbloque) (c : Carpeta) (bloque : Int) : Decidable (EnRango sb c bloque) :=
  inferInstanceAs (Decidable (_ ∧ _))

theorem escrituraDiferenciada_efecto (h : Movida sb s f c blocks movs s₁) (fisicos : Fisicos s)
    (listed : Listado c) (hc : s.carpetas.lookup f = some c) (hi : i < c.blocks.length) :
    (∃ b, s₁.destino f i = some b ∧ s₁.existe b = true) ∧
      ((firstFree sb.cantidadBloques s₁.bitmap = none ∧
          escrituraDiferenciada sb s₁ f i (c.blocks.getD i 0) = .sinEspacio) ∨
        ∃ nuevo s₂, firstFree sb.cantidadBloques s₁.bitmap = some nuevo ∧
          escrituraDiferenciada sb s₁ f i (c.blocks.getD i 0) = .hecha nuevo s₂ ∧
          Movida sb s f c blocks (movs ++ [(i, nuevo)]) s₂) := by
  obtain ⟨l, links, at_⟩ := h.carpeta
  have there : ∀ x ∈ c.blocks, s₁.existe x = true := by
    intro x hx
    obtain ⟨j, hj⟩ := List.mem_iff_getElem?.mp hx
    exact (h.existe x).mpr (.inl (fisicos f j x ((destino_listado listed hc j).trans hj)))
  have inside : i < (ponerTodos c.blocks movs).length := by rwa [ponerTodos_length]
  obtain ⟨b, hb⟩ : ∃ b, (ponerTodos c.blocks movs)[i]? = some b :=
    ⟨_, List.getElem?_eq_getElem inside⟩
  have hl : l.lookup i = some b := (at_ i).trans hb
  have hbe : s₁.existe b = true := by
    rcases mem_ponerTodos (List.mem_of_getElem? hb) with old | new
    · exact there b old
    · exact (h.existe b).mpr (.inr new)
  have source : s₁.existe (c.blocks.getD i 0) = true := by
    have entry : c.blocks.getD i 0 = c.blocks[i] := by simp [hi]
    exact there _ (entry ▸ List.getElem_mem hi)
  refine ⟨⟨b, destino_some.mpr ⟨_, links.propia, hl⟩, hbe⟩, ?_⟩
  rcases escrituraDiferenciada_cases sb (c.blocks.getD i 0) links.propia hl
    with ⟨full, run⟩ | ⟨nuevo, hn, ⟨missing, _⟩ | ⟨_, run⟩⟩
  · exact .inl ⟨full, run⟩
  · rw [source] at missing; contradiction
  · exact .inr ⟨nuevo, _, hn, run, movida_paso h hi hn links.propia⟩

variable (sb) in
theorem escribirBloque_efecto (fisicos : Fisicos s) (unprotected : esProtegido f = false)
    (hc : s.carpetas.lookup f = some c) (open_ : c.estado ≠ .commited) (listed : Listado c)
    (bloque : Int) (contenido : Bytes) :
    escribirBloque sb s f bloque contenido = (false, s) ∨
      EnRango sb c bloque ∧ ∃ nuevo,
        firstFree sb.cantidadBloques s.bitmap = some nuevo ∧
        (escribirBloque sb s f bloque contenido).1 = true ∧
        Movida sb s f c (c.blocks.set bloque.toNat nuevo) [(bloque.toNat, nuevo)]
          (escribirBloque sb s f bloque contenido).2 := by
  have closed : verificarSiCommited s f = false := by
    simp [verificarSiCommited, hc, open_]
  simp only [escribirBloque, unprotected, closed, hc, Bool.false_eq_true, ↓reduceIte]
  by_cases range : bloque < 0 ∨ (sb.bloquesLogicos c.tamanio : Int) ≤ bloque
  · exact .inl (by rw [if_pos range])
  by_cases short : c.blocks.length ≤ bloque.toNat
  · exact .inl (by rw [if_neg range, if_pos short])
  rw [if_neg range, if_neg short]
  have inside : bloque.toNat < c.blocks.length := Nat.lt_of_not_le short
  obtain ⟨⟨b, hd, he⟩, copy⟩ :=
    escrituraDiferenciada_efecto (movida_refl hc listed) fisicos listed hc inside
  simp only [hd, if_neg (nlink_ne_one_of_link hd he)]
  rcases copy with ⟨_, run⟩ | ⟨nuevo, s₂, hn, run, moved⟩
  · exact .inl (by rw [run])
  · refine .inr ⟨⟨range, inside⟩, nuevo, hn, ?_⟩
    rw [run]
    exact movida_escribir (movida_guardarBlocks moved _) (by simp) _

theorem prepararPagina_efecto (fisicos : Fisicos s) (listed : Listado c)
    (hc : s.carpetas.lookup f = some c) {fase : FaseFlush Hash}
    (h : Movida sb s f c c.blocks movs fase.storage) (pagina : Pagina) :
    (¬ (EnRango sb c pagina.1 ∧
          firstFree sb.cantidadBloques fase.storage.bitmap ≠ none) ∧
        prepararPagina sb f c fase pagina = { fase with exitosas := false }) ∨
      EnRango sb c pagina.1 ∧ ∃ nuevo s₂,
        firstFree sb.cantidadBloques fase.storage.bitmap = some nuevo ∧
        prepararPagina sb f c fase pagina = { fase with
          storage := s₂,
          pendientes := fase.pendientes ++
            [⟨nuevo, pagina.2, pagina.1.toNat, some nuevo⟩] } ∧
        Movida sb s f c c.blocks (movs ++ [(pagina.1.toNat, nuevo)]) s₂ := by
  unfold prepararPagina
  by_cases range : pagina.1 < 0 ∨ (sb.bloquesLogicos c.tamanio : Int) ≤ pagina.1
  · exact .inl ⟨fun ok => ok.1.1 range, by rw [if_pos range]⟩
  by_cases short : c.blocks.length ≤ pagina.1.toNat
  · exact .inl ⟨fun ok => Nat.not_lt_of_le short ok.1.2, by rw [if_neg range, if_pos short]⟩
  rw [if_neg range, if_neg short]
  have inside : pagina.1.toNat < c.blocks.length := Nat.lt_of_not_le short
  obtain ⟨⟨b, hd, he⟩, copy⟩ := escrituraDiferenciada_efecto h fisicos listed hc inside
  simp only [hd, if_neg (nlink_ne_one_of_link hd he)]
  rcases copy with ⟨full, run⟩ | ⟨nuevo, s₂, hn, run, moved⟩
  · exact .inl ⟨fun ok => ok.2 full, by rw [run]⟩
  · exact .inr ⟨⟨range, inside⟩, nuevo, s₂, hn, by rw [run], moved⟩

def pendienteDe (m : Pagina × Nat) : EscrituraPendiente :=
  ⟨m.2, m.1.2, m.1.1.toNat, some m.2⟩

def movimiento (m : Pagina × Nat) : Nat × Nat := (m.1.1.toNat, m.2)

/-- The loop of FLUSH took `fase` to `fase'` moving the pages `moved`, each with its block. -/
structure Recorrido (sb : Superbloque) (s : Storage Hash) (f : FileTag) (c : Carpeta)
    (movs : List (Nat × Nat)) (paginas : List Pagina) (fase : FaseFlush Hash)
    (moved : List (Pagina × Nat)) (fase' : FaseFlush Hash) : Prop where
  movida : Movida sb s f c c.blocks (movs ++ moved.map movimiento) fase'.storage
  pendientes : fase'.pendientes = fase.pendientes ++ moved.map pendienteDe
  exitosas : fase'.exitosas = true ↔ fase.exitosas = true ∧ moved.map Prod.fst = paginas
  orden : (moved.map Prod.fst).Sublist paginas
  enRango : ∀ m ∈ moved, EnRango sb c m.1.1
  completo : (∀ p ∈ paginas, EnRango sb c p.1) →
    moved.map Prod.fst = paginas ∨ freeSlots sb.cantidadBloques fase'.storage.bitmap = []

theorem prepararPaginas_efecto (fisicos : Fisicos s) (listed : Listado c)
    (hc : s.carpetas.lookup f = some c) (paginas : List Pagina) :
    ∀ (fase : FaseFlush Hash) (movs : List (Nat × Nat)),
      Movida sb s f c c.blocks movs fase.storage →
      ∃ moved, Recorrido sb s f c movs paginas fase moved
        (paginas.foldl (prepararPagina sb f c) fase) := by
  induction paginas with
  | nil =>
    intro fase movs h
    exact ⟨[], by simpa using h, by simp, by simp, by simp, by simp, fun _ => .inl rfl⟩
  | cons p rest ih =>
    intro fase movs h
    rw [List.foldl_cons]
    rcases prepararPagina_efecto fisicos listed hc h p
      with ⟨no, run⟩ | ⟨range, nuevo, s₂, _, run, step⟩
    · rw [run]
      obtain ⟨moved, walk⟩ := ih { fase with exitosas := false } movs h
      refine ⟨moved, walk.movida, walk.pendientes, ?_, walk.orden.cons p, walk.enRango, ?_⟩
      · rw [walk.exitosas]
        constructor
        · rintro ⟨bad, _⟩; contradiction
        · rintro ⟨_, eq⟩
          have short := walk.orden.length_le
          rw [eq, List.length_cons] at short
          omega
      · intro inRange
        right
        have none_ : firstFree sb.cantidadBloques fase.storage.bitmap = none := by
          by_contra some_
          exact no ⟨inRange p (by simp), some_⟩
        have empty := walk.movida.tomados
        rw [h.tomados, firstFree_none.mp none_, List.map_append, List.append_assoc] at empty
        exact (List.append_eq_nil_iff.mp (List.append_cancel_left empty).symm).2
    · rw [run]
      obtain ⟨moved, walk⟩ := ih
        ⟨s₂, fase.exitosas, fase.pendientes ++ [pendienteDe (p, nuevo)]⟩ _ step
      refine ⟨(p, nuevo) :: moved, ?_, ?_, ?_, walk.orden.cons_cons p, ?_, ?_⟩
      · rw [List.map_cons, List.append_cons]
        exact walk.movida
      · refine walk.pendientes.trans ?_
        simp
      · refine walk.exitosas.trans ?_
        simp
      · intro m hm
        rcases List.mem_cons.mp hm with rfl | hm
        · exact range
        · exact walk.enRango m hm
      · intro inRange
        rcases walk.completo fun q hq => inRange q (List.mem_cons_of_mem p hq) with eq | empty
        · left; simp [eq]
        · exact .inr empty

theorem prepararPaginas_mueve (fisicos : Fisicos s) (listed : Listado c)
    (hc : s.carpetas.lookup f = some c) (paginas : List Pagina) :
    ∀ (fase : FaseFlush Hash) (movs : List (Nat × Nat)),
      Movida sb s f c c.blocks movs fase.storage → (∃ p ∈ paginas, EnRango sb c p.1) →
      freeSlots sb.cantidadBloques fase.storage.bitmap ≠ [] →
      freeSlots sb.cantidadBloques (paginas.foldl (prepararPagina sb f c) fase).storage.bitmap ≠
        freeSlots sb.cantidadBloques fase.storage.bitmap := by
  induction paginas with
  | nil => intro fase movs _ ⟨p, hp, _⟩; simp at hp
  | cons q rest ih =>
    intro fase movs h ⟨p, hp, range⟩ space
    rw [List.foldl_cons]
    rcases prepararPagina_efecto fisicos listed hc h q with ⟨no, run⟩ | ⟨_, nuevo, s₂, _, run, step⟩
    · rw [run]
      refine ih { fase with exitosas := false } movs h ⟨p, ?_, range⟩ space
      rcases List.mem_cons.mp hp with rfl | hp
      · exact (no ⟨range, fun none_ => space (firstFree_none.mp none_)⟩).elim
      · exact hp
    · rw [run]
      obtain ⟨moved, walk⟩ := prepararPaginas_efecto fisicos listed hc rest
        ⟨s₂, fase.exitosas, fase.pendientes ++ [pendienteDe (q, nuevo)]⟩ _ step
      have taken := congrArg List.length (h.tomados.symm.trans walk.movida.tomados)
      intro same
      have less := congrArg List.length same
      simp only [List.length_append, List.length_map, List.length_cons, List.length_nil] at taken
      simp only [pendienteDe] at taken
      omega

theorem actualizarBlocks_eq (blocks : List Nat) (moved : List (Pagina × Nat)) :
    actualizarBlocks blocks (moved.map pendienteDe) = ponerTodos blocks (moved.map movimiento) := by
  simp only [actualizarBlocks, ponerTodos, List.foldl_map, pendienteDe, movimiento]

theorem escribirPendientes_efecto (pendientes : List EscrituraPendiente) :
    ∀ (ok : Bool) (s₁ : Storage Hash), Movida sb s f c blocks movs s₁ →
      (∀ e ∈ pendientes, e.bloqueFinal ∈ movs.map Prod.snd) →
      (escribirPendientes sb ⟨s₁, ok, pendientes⟩).1 = ok ∧
        Movida sb s f c blocks movs (escribirPendientes sb ⟨s₁, ok, pendientes⟩).2 := by
  induction pendientes with
  | nil => intro ok s₁ h _; exact ⟨rfl, h⟩
  | cons e rest ih =>
    intro ok s₁ h own
    obtain ⟨done, h'⟩ :=
      movida_escribir h (own e (by simp)) (e.contenido.take sb.tamanioBloque)
    have tail := ih (ok && (escribirEnFinal s₁ e.bloqueFinal
      (e.contenido.take sb.tamanioBloque)).1) _ h' fun x hx => own x (List.mem_cons_of_mem e hx)
    rw [done, Bool.and_true] at tail
    simpa only [escribirPendientes, List.foldl_cons, done, Bool.and_true] using tail

variable (sb) in
theorem escribirPendientes_otros (pendientes : List EscrituraPendiente) :
    ∀ (ok : Bool) (s₁ : Storage Hash), b ∉ pendientes.map (·.bloqueFinal) →
      (escribirPendientes sb ⟨s₁, ok, pendientes⟩).2.datos b = s₁.datos b := by
  induction pendientes with
  | nil => intro ok s₁ _; rfl
  | cons e rest ih =>
    intro ok s₁ other
    rw [List.map_cons, List.mem_cons, not_or] at other
    refine (ih _ (escribirEnFinal s₁ e.bloqueFinal
      (e.contenido.take sb.tamanioBloque)).2 other.2).trans ?_
    simp only [escribirEnFinal, Storage.escribirFisico]
    split
    · rename_i none_
      split at none_ <;> rfl
    · rename_i s₂ written
      split at written
      · cases written
        simp [other.1]
      · contradiction

theorem escribirPendientes_datos (pendientes : List EscrituraPendiente) :
    ∀ (ok : Bool) (s₁ : Storage Hash), (pendientes.map (·.bloqueFinal)).Nodup →
      (∀ e ∈ pendientes, s₁.existe e.bloqueFinal = true ∧
        e.contenido.length = sb.tamanioBloque) →
      ∀ e ∈ pendientes,
        ((escribirPendientes sb ⟨s₁, ok, pendientes⟩).2.datos e.bloqueFinal).take
          sb.tamanioBloque = e.contenido := by
  induction pendientes with
  | nil => intro ok s₁ _ _ e he; simp at he
  | cons e rest ih =>
    intro ok s₁ distinct whole
    obtain ⟨fresh, distinct⟩ := List.nodup_cons.mp distinct
    obtain ⟨there, size⟩ := whole e (by simp)
    have turn : (escribirEnFinal s₁ e.bloqueFinal (e.contenido.take sb.tamanioBloque)).2 =
        { s₁ with
          datos := Function.update s₁.datos e.bloqueFinal
            (e.contenido ++ (s₁.datos e.bloqueFinal).drop e.contenido.length) } := by
      simp [escribirEnFinal, Storage.escribirFisico, there, List.take_of_length_le size.le]
    intro e' he'
    rcases List.mem_cons.mp he' with rfl | he'
    · have first := escribirPendientes_otros sb rest (ok && (escribirEnFinal s₁
        e'.bloqueFinal (e'.contenido.take sb.tamanioBloque)).1)
        (escribirEnFinal s₁ e'.bloqueFinal (e'.contenido.take sb.tamanioBloque)).2 fresh
      have written := congrArg (fun x => x.datos e'.bloqueFinal) turn
      simp only [Function.update_self] at written
      exact (congrArg (List.take _) (first.trans written)).trans (List.take_left' size)
    · refine ih _ (escribirEnFinal s₁ e.bloqueFinal
        (e.contenido.take sb.tamanioBloque)).2 distinct ?_ e' he'
      rw [turn]
      exact fun x hx => whole x (List.mem_cons_of_mem e hx)

section
variable {pags : List Pagina} {moved : List (Pagina × Nat)} {fase : FaseFlush Hash}
  (walk : Recorrido sb s f c [] pags ⟨s, true, []⟩ moved fase)
include walk

theorem Recorrido.propios : ∀ e ∈ fase.pendientes,
    e.bloqueFinal ∈ (moved.map movimiento).map Prod.snd := by
  intro e he
  rw [walk.pendientes, List.nil_append] at he
  obtain ⟨m, hm, rfl⟩ := List.mem_map.mp he
  exact List.mem_map.mpr ⟨movimiento m, List.mem_map.mpr ⟨m, hm, rfl⟩, rfl⟩

theorem Recorrido.guarda (whole : fase.exitosas = true) {cantidad : Int}
    (few : pags.length ≤ cantidad.toNat) :
    Movida sb s f c (ponerTodos c.blocks (moved.map movimiento)) (moved.map movimiento)
      (if 0 < cantidad ∧ fase.exitosas = true ∧
          (fase.pendientes.any fun e => e.nuevoValor.isSome) = true then
        guardarBlocks fase.storage f (actualizarBlocks c.blocks fase.pendientes)
      else fase.storage) := by
  have pend : fase.pendientes = moved.map pendienteDe := walk.pendientes
  split
  · rw [pend, actualizarBlocks_eq]
    exact movida_guardarBlocks walk.movida _
  · rename_i skip
    have still : moved = [] := by
      by_contra some_
      obtain ⟨m, rest, rfl⟩ := List.exists_cons_of_ne_nil some_
      refine skip ⟨?_, whole, by rw [pend]; rfl⟩
      have some_page := walk.orden.length_le
      rw [List.map_cons, List.length_cons] at some_page
      omega
    subst still
    exact walk.movida

theorem Recorrido.datos {blocks : List Nat} {s₂ : Storage Hash}
    (saved : Movida sb s f c blocks (moved.map movimiento) s₂)
    (sizes : ∀ p ∈ pags, p.2.length = sb.tamanioBloque) : ∀ m ∈ moved,
      ((escribirPendientes sb ⟨s₂, true, fase.pendientes⟩).2.datos m.2).take sb.tamanioBloque =
        m.1.2 := by
  have pend : fase.pendientes = moved.map pendienteDe := walk.pendientes
  have distinct : (fase.pendientes.map (·.bloqueFinal)).Nodup := by
    have taken := freeSlots_nodup sb.cantidadBloques s.bitmap
    rw [walk.movida.tomados, List.nil_append, List.map_map] at taken
    rw [pend, List.map_map]
    exact taken.of_append_left
  intro m hm
  have here : pendienteDe m ∈ fase.pendientes := by
    rw [pend]
    exact List.mem_map_of_mem hm
  refine escribirPendientes_datos fase.pendientes true s₂ distinct ?_ (pendienteDe m) here
  intro e he
  refine ⟨(saved.existe e.bloqueFinal).mpr (.inr (walk.propios e he)), ?_⟩
  rw [pend] at he
  obtain ⟨m', hm', rfl⟩ := List.mem_map.mp he
  exact sizes m'.1 (walk.orden.subset (List.mem_map_of_mem (f := Prod.fst) hm'))

end

variable (sb) in
theorem flushArchivo_efecto (fisicos : Fisicos s) (unprotected : esProtegido f = false)
    (hc : s.carpetas.lookup f = some c) (open_ : c.estado ≠ .commited) (listed : Listado c)
    (paginas : List Pagina) (cantidad : Int) :
    ∃ moved : List (Pagina × Nat),
      (moved.map Prod.fst).Sublist (paginas.take cantidad.toNat) ∧
      (∀ m ∈ moved, EnRango sb c m.1.1) ∧
      ((∀ p ∈ paginas.take cantidad.toNat, EnRango sb c p.1) →
        moved.map Prod.fst = paginas.take cantidad.toNat ∨
          freeSlots sb.cantidadBloques (flushArchivo sb s f paginas cantidad).2.bitmap = []) ∧
      ((flushArchivo sb s f paginas cantidad).1 = true ↔
        moved.map Prod.fst = paginas.take cantidad.toNat ∧ cantidad.toNat ≤ paginas.length) ∧
      Movida sb s f c (if (flushArchivo sb s f paginas cantidad).1 then
          ponerTodos c.blocks (moved.map movimiento) else c.blocks) (moved.map movimiento)
        (flushArchivo sb s f paginas cantidad).2 ∧
      ((flushArchivo sb s f paginas cantidad).1 = true →
        (∀ p ∈ paginas, p.2.length = sb.tamanioBloque) → ∀ m ∈ moved,
          ((flushArchivo sb s f paginas cantidad).2.datos m.2).take sb.tamanioBloque = m.1.2) ∧
      ((∃ p ∈ paginas.take cantidad.toNat, EnRango sb c p.1) →
        freeSlots sb.cantidadBloques s.bitmap ≠ [] → moved ≠ []) := by
  have closed : verificarSiCommited s f = false := by
    simp [verificarSiCommited, hc, open_]
  obtain ⟨moved, walk⟩ := prepararPaginas_efecto fisicos listed hc (paginas.take cantidad.toNat)
    ⟨s, true, []⟩ [] (movida_refl hc listed)
  have moves : (∃ p ∈ paginas.take cantidad.toNat, EnRango sb c p.1) →
      freeSlots sb.cantidadBloques s.bitmap ≠ [] → moved ≠ [] := by
    rintro some_ space rfl
    refine prepararPaginas_mueve fisicos listed hc _ ⟨s, true, []⟩ [] (movida_refl hc listed)
      some_ space ?_
    simpa using walk.movida.tomados.symm
  refine ⟨moved, walk.orden, walk.enRango, ?_⟩
  simp only [flushArchivo, unprotected, closed, hc, Bool.false_eq_true, ↓reduceIte]
  generalize (paginas.take cantidad.toNat).foldl (prepararPagina sb f c) ⟨s, true, []⟩ = fase
    at walk ⊢
  have reached : fase.exitosas = true ↔ moved.map Prod.fst = paginas.take cantidad.toNat := by
    simpa using walk.exitosas
  by_cases whole : fase.exitosas = true ∧ cantidad.toNat ≤ paginas.length
  · have saved := walk.guarda whole.1 (List.length_take_le cantidad.toNat paginas)
    rw [if_neg (Nat.not_lt_of_le whole.2)]
    generalize (if 0 < cantidad ∧ fase.exitosas = true ∧
        (fase.pendientes.any fun e => e.nuevoValor.isSome) = true then
          guardarBlocks fase.storage f (actualizarBlocks c.blocks fase.pendientes)
        else fase.storage) = s₂ at saved ⊢
    obtain ⟨ok, done⟩ := escribirPendientes_efecto fase.pendientes true s₂ saved walk.propios
    simp only [whole.1, ok, ↓reduceIte]
    have final := movida_persistir done
    exact ⟨fun h => (walk.completo h).imp_right (movida_libres walk.movida final).trans,
      ⟨fun _ => ⟨reached.mp whole.1, whole.2⟩, fun _ => trivial⟩, final,
      fun _ sizes => walk.datos saved fun p hp => sizes p (List.mem_of_mem_take hp), moves⟩
  · have broken : (if paginas.length < cantidad.toNat then { fase with exitosas := false }
        else fase) = ⟨fase.storage, false, fase.pendientes⟩ := by
      split
      · rfl
      · rename_i enough
        have failed : fase.exitosas = false := by
          by_contra good
          exact whole ⟨by simpa using good, Nat.le_of_not_lt enough⟩
        rw [← failed]
    simp only [broken, Bool.false_eq_true, false_and, and_false, ↓reduceIte]
    obtain ⟨ok, done⟩ := escribirPendientes_efecto fase.pendientes false fase.storage
      walk.movida walk.propios
    simp only [ok, Bool.false_eq_true, ↓reduceIte, false_iff]
    exact ⟨fun h => (walk.completo h).imp_right (movida_libres walk.movida done).trans,
      fun h => whole ⟨reached.mpr h.1, h.2⟩, done, by simp, moves⟩

end StorageMovidas
