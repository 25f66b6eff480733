/-!
The names of characters, as places in the list of words.

Each run of characters gives its first code point in base sixteen, then one name for every code
point, with a space before each name and a semicolon behind the run. A name begins with a digit for
how many digits it has in common with the name before it, and goes on with the others.
-/

namespace VoiceDebugger.Text

/-- The runs of named characters. -/
def nameTable : List String := [
  "20 AKl AJsAu AI4Au AAgAB ATVAB AXDAB ARt AQt AArG4 BoG4 AG5 ABkAB AFq AaN AGUEo AKN AAQDj CA2 ",
  "D7 CBG DT Da D5 CCE CB3 CCJ AId AOT AFuAB AH-AB AFvAB AJCAu AXEJc AAHAFAAAW GBD GD2 HU GA9 GEz",
  " GDE HV GA- GEW GDJ GBz GCz Hc GA6 GD8 GFw GBm Hn GDG GAz GDM GEN GD9 Hk Hd BrAvCF AK6KN AAoAv",
  "CF AEOFH ACKE- AFAFH AAHACAAAW GBD GD2 HU GA9 GEz GDE HV GA- GEW GDJ GBz GCz Hc GA6 GD8 GFw GB",
  "m Hn GDG GAz GDM GEN GD9 Hk Hd BrIACF ABYE- AAoIACF AC5;A0 AfgKl AFRJsAu AoZAB AaOAB APvAB AXF",
  "AB AUqB7 AHsAB AEi AoaAB BbocIY ALFA4FfI4Au AFTAB ANUOU A6K9AB AFI AaPAB A6GVAB AJTA7 CBG ADiF",
  "H A51KAB AodAB ABRBA AJD BTA2 A5zIocIY AKOA4FfI4Au ALVDPA2Ht GBy EBGMx AFRJCAu AAHAFAAAWADFA K",
  "Di KEO KC5 KEi KCiAq GIZ GD2ADJD GA9ADFA KDi KEO Li H-ADFA KDi KEO Li GRu GCcADC5 GA6ADFA KDi ",
  "KEO KC5 KEi ANxAB AAHAFAAA6ADBM HzADFA KDi KEO Li GDkADDi GRv DCAATWBn GAWADFA KDi KEO KC5 KEi",
  " KCiAq GIZ GD2ADJD GA9ADFA KDi KEO Li H-ADFA KDi KEO Li GRu GCcADC5 GA6ADFA KDi KEO KC5 KEi AR",
  "wAB AAHACAAA6ADBM HzADFA KDi KEO Li GDkADDi GRv GDkADEi DFAAAWADFI DCAAAWADFI DFAAAWADF4 DCAAA",
  "WADF4 DFAAAWADMy DCAAAWADMy DFAAD2ADDi DCAAD2ADDi DFAAD2ADEO DCAAD2ADEO DFAAD2ADBAAq DCAAD2ADB",
  "AAq DFAAD2ADG+ DCAAD2ADG+ DFAADUADG+ DCAADUADG+ DFAADUADBM DCAADUADBM DFAAA9ADFI DCAAA9ADFI DF",
  "AAA9ADF4 DCAAA9ADF4 DFAAA9ADBAAq DCAAA9ADBAAq DFAAA9ADMy DCAAA9ADMy DFAAA9ADG+ DCAAA9ADG+ DFAA",
  "DEADEO DCAADEADEO DFAADEADF4 DCAADEADF4 DFAADEADBAAq DCAADEADBAAq DFAADEADJD DCAADEADJD DFAADV",
  "ADEO DCAADVADEO DFAADVADBM DCAADVADBM DFAAA-ADC5 DCAAA-ADC5 DFAAA-ADFI DCAAA-ADFI DFAAA-ADF4 D",
  "CAAA-ADF4 DFAAA-ADMy DCAAA-ADMy DFAAA-ADBAAq DCAAK7A- DFAjoe DCAjoe DFAAEWADEO DCAAEWADEO DFAA",
  "DJADJD DCAADJADJD G5pe DFAABzADDi DCAABzADDi DFAABzADJD DCAABzADJD DFAABzADG+ DCAABzADG+ DFAAB",
  "zADBRBA DCAABzADBRBA DFAABzADBM DCAABzADBM DFAACcADDi DCAACcADDi DFAACcADJD DCAACcADJD DFAACcA",
  "DG+ DCAACcADG+ I6HCOVQt DFAAOW DCAAOW DFAAA6ADFI DCAAA6ADFI DFAAA6ADF4 DCAAA6ADF4 DFAAA6ADA4Di",
  " DCAAA6ADA4Di DFAjHE DCAjHE DFAABmADDi DCAABmADDi DFAABmADJD DCAABmADJD DFAABmADG+ DCAABmADG+ ",
  "DFAABnADDi DCAABnADDi DFAABnADEO DCAABnADEO DFAABnADJD DCAABnADJD DFAABnADG+ DCAABnADG+ DFAADG",
  "ADJD DCAADGADJD DFAADGADG+ DCAADGADG+ DFAADGADBM DCAADGADBM DFAAAzADC5 DCAAAzADC5 DFAAAzADFI D",
  "CAAAzADFI DFAAAzADF4 DCAAAzADF4 DFAAAzADCiAq DCAAAzADCiAq DFAAAzADA4Di DCAAAzADA4Di DFAAAzADMy",
  " DCAAAzADMy DFAAENADEO DCAAENADEO DFAADkADEO DCAADkADEO DFAADkADEi HdADDi DCAADdADDi DFAADdADB",
  "AAq DCAADdADBAAq DFAADdADG+ DCAADdADG+ GCsBn GBDADBM DFAABDADBX KaQ DCAABDADaQ DFAACLB5 DCAACL",
  "B5 DFAAC0A6 GD2ADBX DCAAD2ADBX DFAAXGDU GDUADBX KaQ DCAADUADaQ GCjLG DFAAD7A9 GPE GC0A9 GEzADB",
  "X DCAAEzADBX DFAADEADBX GKm DCAAaR DFAAGK GA-ADBM GDJADBX DCAADJADBX GBzADB7 G5r2ADBM DFAACjCz",
  " HcADArBX DCAACcADCsAoLH DFAAA6ADBRC5 KIQ DCAAA6ADIQ DFAAXH DCAAXH DFAAD8ADBX DCAAD8ADBX DAof ",
  "DFAACLA7 DCAACLA7 DFAALW DAD7LWJd DCAADGADJEBX DFAADGADBX DCAADGADBX DFAADGADHOBX GAzADIQ DCAA",
  "AzADIQ DFAAGr GDMADBX HkADBX DCAADkADBX DFAADdADBM DCAADdADBM DFAAOX ID7 DCAAOXD7 IADFr DAA7AD",
  "BM DFAACLBa DCAACLBa DAFRIHEoADBM EaS EfhPF EogPF FhPF EHOPF DFAAPwADG+ GDUADACAADdADG+ DCAAPw",
  "ADG+ DFAAoi GBzADACAAEW DCAAoi DFAAoj GCcADACAAEW DCAAoj DFAAAWADG+ DCAAAWADG+ DFAAA-ADG+ DCAA",
  "A-ADG+ DFAAA6ADG+ DCAAA6ADG+ DFAAAzADG+ DCAAAzADG+ DFAAAzADEiAaFI DCAAAzADEiAaFI DFAAAzADEiAaD",
  "i DCAAAzADEiAaDi DFAAAzADEiAaG+ DCAAAzADEiAaG+ DFAAAzADEiAaFA DCAAAzADEiAaFA GCjA9 DFAAAWADEiA",
  "aFI DCAAAWADEiAaFI DFAAAWADBAAqAaFI DCAAAWADBAAqAaFI DFAAIZADFI DCAAIZADFI DFAADEADBM DCAADEAD",
  "BM DFAADEADG+ DCAADEADG+ DFAADJADG+ DCAADJADG+ DFAAA6ADMy DCAAA6ADMy DFAAA6ADMyAaFI DCAAA6ADMy",
  "AaFI DFAAOXADG+ DCAAOXADG+ GEWADG+ DFAAPw GDUADACAADd DCAAPw DFAADEADDi DCAADEADDi DFAAok GaS ",
  "GCcADFA DCAACcADFA DFAAAWADCiAqAaDi DCAAAWADCiAqAaDi DFAAIZADDi DCAAIZADDi DFAAA6ADBMAaDi DCAA",
  "A6ADBMAaDi DFAAAWADA4FA DCAAAWADA4FA DFAAAWADFRF4 DCAAAWADFRF4 DFAAA9ADA4FA DCAAA9ADA4FA DFAAA",
  "9ADFRF4 DCAAA9ADFRF4 DFAAA-ADA4FA DCAAA-ADA4FA DFAAA-ADFRF4 DCAAA-ADFRF4 DFAAA6ADA4FA DCAAA6AD",
  "A4FA DFAAA6ADFRF4 DCAAA6ADFRF4 DFAABmADA4FA DCAABmADA4FA DFAABmADFRF4 DCAABmADFRF4 DFAAAzADA4F",
  "A DCAAAzADA4FA DFAAAzADFRF4 DCAAAzADFRF4 DFAABnADFqA+ DCAABnADFqA+ DFAADGADFqA+ DCAADGADFqA+ D",
  "FAAol DCAAol DFAADVADG+ DCAADVADG+ DFAACcADCsAoLH DCAADUADKn DFAARx DCAARx DFAADdADBX DCAADdAD",
  "BX DFAAAWADBAAq DCAAAWADBAAq DFAAA9ADJD DCAAA9ADJD DFAAA6ADEiAaFI DCAAA6ADEiAaFI DFAAA6ADC5AaF",
  "I DCAAA6ADC5AaFI DFAAA6ADBAAq DCAAA6ADBAAq DFAAA6ADBAAqAaFI DCAAA6ADBAAqAaFI DFAADkADFI DCAADk",
  "ADFI GBzADKn GCcADKn GDGADKn GK7EW GomIq G6I5Iq DFAAAWADBM GD2ADBM DCAAD2ADBM DFAABzADB7 GDGAD",
  "C+BM DCAABnADUrFr GDdADUrFr DFAAIHEo DCAAIHEo DFAABDADBM GAzB7 GCjDM GA9ADBM DCAAA9ADBM DFAAEW",
  "ADBM DCAAEWADBM DFAAACFwADBXFr DCAAFwADBXFr DFAABmADBM DCAABmADBM DFAADkADBM DCAADkADBM GCjAW ",
  "GE0 GCjE0 GBDADBX GC0A6 GD2ADKn HUADFr KBX H7A9 GPE IADBX GC0A9 GD7C0A9 MADBX GHFD7C0A9 GK7EWA",
  "DBM GDEADBX GAbDE DAACAFDE DCAAKm GonIQ GCjDV GDVADBX GXIADBX GA-ADBM GGK DAACAFA- DCAABzADBRC",
  "5 KPG KHOBX GaT GCjCz KADCsLH HzADBX HcADArBX KHOBX DAACAFCc DCAAPxA6 DAACAFHE DCAAHFEu GKB GC",
  "jBm KADCsLH MBX GBmADCsLH KFr KRy GD7BmADRy DAACAFBm IFRBm DCAABnADBX GLW GK7EWADBMAaBX GooD7L",
  "W GLWADKn GCjDG GDGADHOBX GAzB7 GGr GDMADBX GCjDM IEN IDk DAACAFDk DCAADdADHOBX KKn GOX IADKn ",
  "DAIHEo ERzPy5HV EFRIHEo EKCD2 EfiPF EACAFBD DCAAHFC0A9 DAACAFDEADBX JV DCAAEWADQu GCjDJ DAACAF",
  "Bz DCAAFwADBX DAIHEoADBM ED7IHEoADBM DCAAPwIq GaUIq GPwIqADKn GaVIq HWIq GopIqADKn GfjIq GoqIq",
  " HrIq DAfios E4Vdos DCAACjDVADRy OAaFr ABCAAACDV IADBX GEW GBm GCjBm KADBX GAFFRBm GEN GDk EOY",
  " EA4OY ECjFq EQt ED7Fq EAoByCi FrByCi EIHEo ED7IHEo EArEj FoEj EBlEj F4Ej EEOFH AG+ ABCAABYE- ",
  "EFI EDiFH EFAFH ECKBYE- GFI HAFH GDiFH EKoId EByKoId EQvAoByCi HrByCi EBlII F4II FkAB EK8AB AF",
  "4 ABAAq ACiAq AMy AACC5 B4DiFH ABCAA6LlBX EGVFH EACKm GBz Hn GD9 H7IHEo EaXCLB7 ECPCLB7 ETXCLB",
  "7 ECKCLB7 EaYCLB7 EQwfkCLAu EOZfkCLAu Eot E6ls EA4Qt ECKB4Ej HlEj GArEj HoEj GCi EBRFAFH GA4FA",
  "FH IDiFH ECKC5 EIRId ER0CPCL EIrCPCL ER0CKCL EIrCKCL Eou EC0ou FKArAe AAiFAFH CDiFH CEOFH CC5 ",
  "CFI CR1 CF4 CBAAq CEi CBXAq CCiAq CA4DiFH CG+ CBYE-Aq CA4BYE-Aq EFAFH CIS CFRF4 CCjFqAq CFqAq ",
  "CD7FqAq CFqAqAo DAFHA+ CDiFHA+ CArIIA+ DoIIA+ DrFfAq CIQ CArByCiA+ CBlIIA+ D4IIA+ DkABA+ CK8AB",
  "A+ C6DTBXA+ CHOBXA+ CBAA+ CEiA+ CCiA+ CFqA+ CJD CMy CBYE-A+ CUsA+ CFRA4ovA+ CG+A+ CEOFHA+ CF4A",
  "+ DRF4A+ CC5A+ CFIA+ CCKE- CA4CKE- CC5Ka CE1BMKa CCsBMKa CE1KNKa CCsKNKa CAoByCiA+ CFRUsA+ CAv",
  "A+ C6QAA+ CD9Aq CBYC5 CA4R1 CFACLAu CDiCLAu CAkGx Efl EMALX EHu CUsAq CH-ABA+ CA4BYE-A+ DrFfA+",
  " CFTC5Aq CowAq CMXCmBHAq CArAoAeA+ CC-AeA+ C5LSTY CAoEjAq DrByCiAq Cfm CD9A+ CArEjA+ DoEjA+ Ha",
  "BlEjA+ EByCiAq CBAAqAo CG5A+ CA4CiA+ COaAq CA4F4A+ G FI GA+ EC5 EFRF4 EBfAeA+ DHACAAAW J9 J- J",
  "6 Jz ID2 JU JV ICz IBm IDG JM J9 BkAFAAox DCAAox DFAAHbUt DCAAHbUt CEcAB CBvEcAB CAFAAoyUu DCA",
  "AoyUu;37A AAkHu CACD7PzJtAM EHPPzJtAM ED7HPPzJtAM CJCAu CAFAAXJ;384 AAkLX CMALX CAFAAE0ADLX CR",
  "2oz CAFAAHvADLX GF9ADLX GGKADLX;38C AAkAFAAI5ADLX;38E AAkAFAAGrADLX GEuADLX DCAAGKADMAAaLX DFA",
  "AE0 GLY GKm GLG GHv GNy GF9 GKD GGK GLp GNV GHc GIe GMz GI5 GGW GJU;3A3 AAkAFAAJt GLq GGr GKB ",
  "GJu GMB GEu GGKADMA HrADMA DCAAE0ADLX GHvADLX GF9ADLX GGKADLX HrADMAAaLX GE0 GLY GKm GLG GHv G",
  "Ny GF9 GKD GGK GLp GNV GHc GIe GMz GI5 GGW GJU GA3Jt GJt GLq GGr GKB GJu GMB GEu GGKADMA HrADM",
  "A GI5ADLX GGrADLX GEuADLX DFUvAM CLYAM CKDAM CGrADBXAM GDiAaBXAM GEiAaBXAM CKBAM CGWAM CUvAM C",
  "AAHbUw DCAAHbUw DAfn DCAAfn DAUu DCAAUu DAUw DCAAUw DAUt DCAAUt ABhAFAAR3 DCAAR3 DFAAo0 DCAAo0",
  " DFAAUx DCAAUx DFAAUy DCAAUy DFAAUz DCAAUz DFAATZ DCAATZ DFAAo1 DCAAo1 AAkLpAM CJUAM CPzJtAM C",
  "AAXJ DFKDAM CPzHvAM CD7PzHvAM CAFAAPH DCAAPH DFPzJtAM EAAU0 DCAAU0 CJUADBMAM CAFD7PzJtAM EHPPz",
  "JtAM ED7HPPzJtAM BtAFAAMCADFA Gfo GaZ Gfp HqMC GR4 Go2A- GAJ GOb Gaa GR5 Go3 H4 GA-ADFA GE1Az ",
  "Go5 GAW GM0 HD GLr GKp GMC HY GKq GA- GE1A- GBe GKb GLs GF+ GA6 GGy GM1 GPI GH2 GAz GP0 GCG GN",
  "W GKP GEp Gfr GP1AB HJ GNUAB GA9 GHd GC1 DCAAAW GM0 HD GLr GKp GMC HY GKq GA- GE1A- GBe GKb GL",
  "s GF+ GA6 GGy GM1 GPI GH2 GAz GP0 GCG GNW GKP GEp Gfr GP1AB HJ GNUAB GA9 GHd GC1 GMCADFA Gfo G",
  "aZ Gfp HqMC GR4 Go2A- GAJ GOb Gaa GR5 Go3 H4 GA-ADFA GE1Az Go5 DFAAEu DCAAEu DFAAQx DCAAQx DFA",
  "AMZA9 DCAAMZA9 DFAAE7Is DCAAE7Is DFAAMZE7Is DCAAMZE7Is DFAAM2Is DCAAM2Is DFAAMZM2Is DCAAMZM2Is",
  " DFAAab DCAAab DFAAMB DCAAMB DFAATa DCAATa DFAAU1 DCAAU1 DFAAU1ADA4FAFH DCAAU1ADA4FAFH DFAAU2 ",
  "DCAAU2 DFAANzEu DCAANzEu DFAAEuADXK DCAAEuADXK DFAAac DCAAac DFAAUw DCAAUw CR6AB BiAtXK E6DS E",
  "EFo6 FXo6 E6Gg ECMR6AB ETbAB BtAFAAE1A-ADFr DCAAE1A-ADFr DFAAo7AB DCAAo7AB DFAAM1ADP2 DCAAM1AD",
  "P2 DFAALrADfs DCAALrADfs DFAALrADBM DCAALrADBM DFAALrADBRBX DCAALrADBRBX DFAAMYADHe DCAAMYADHe",
  " DFAAKqADHe DCAAKqADHe DFAABeADHe DCAABeADHe DFAABeADBYBM DCAABeADBYBM DFAABeADBM DCAABeADBM D",
  "FAAo8Be DCAAo8Be DFAAF+ADHe DCAAF+ADHe DFAjF+Lr DCAjF+Lr DFAAGyADBRBX DCAAGyADBRBX DFAAR7CG DC",
  "AAR7CG DFAAPIADHe DCAAPIADHe DFAAH2ADHe DCAAH2ADHe DFAAIBAz DCAAIBAz DFAAIBAzADBM DCAAIBAzADBM",
  " DFAACGADHe DCAACGADHe DFAjH2NW DCAjH2NW DFAAKPADHe DCAAKPADHe DFAAKPADBYBM DCAAKPADBYBM DFAAa",
  "d DCAAad DFAAR7KP DCAAR7KP DFAAR7KPADHe DCAAR7KPADHe DAo9 DFAAMYADF4 DCAAMYADF4 DFAABeADBX DCA",
  "ABeADBX DFAAKbADFr DCAAKbADFr DFAAF+ADBX DCAAF+ADBX DFAAF+ADFr DCAAF+ADFr DFAAo+KP DCAAo+KP DF",
  "AALsADFr DCAALsADFr Go9 DFAAAWADF4 DCAAAWADF4 DFAAAWADEi DCAAAWADEi DFAjAWMC DCAjAWMC DFAAMCAD",
  "F4 DCAAMCADF4 DFAAPE DCAAPE DFAAPEADEi DCAAPEADEi DFAAMYADEi DCAAMYADEi DFAAKqADEi DCAAKqADEi ",
  "DFAAR7R4 DCAAR7R4 DFAAA-ADFI DCAAA-ADFI DFAAA-ADEi DCAAA-ADEi DFAAA6ADEi DCAAA6ADEi DFAAPxA6 D",
  "CAAPxA6 DFAAPxA6ADEi DCAAPxA6ADEi DFAAA9ADEi DCAAA9ADEi DFAAAzADFI DCAAAzADFI DFAAAzADEi DCAAA",
  "zADEi DFAAAzADA4Di DCAAAzADA4Di DFAAKPADEi DCAAKPADEi DFAALrADHe DCAALrADHe DFAAPJADEi DCAAPJA",
  "DEi DFAALrADBMAaBX DCAALrADBMAaBX DFAACGADBX DCAACGADBX DFAACGADBM DCAACGADBM DFAAMaKp DCAAMaK",
  "p DFAAMaaZ DCAAMaaZ DFAAMao- DCAAMao- DFAAMapA DCAAMapA DFAAMaaa DCAAMaaa DFAAMaR5 DCAAMaR5 DF",
  "AAMapB DCAAMapB DFAAMapC DCAAMapC DFAAD7Kq DCAAD7Kq DFAAKbADBX DCAAKbADBX DFAAR8 DCAAR8 DFAAQy",
  " DCAAQy DFAAXL DCAAXL DFAALI DCAALI DFAAJv DCAAJv DFAApDBe DCAApDBe DFAAKbADBRBX DCAAKbADBRBX ",
  "DFAAF+ADBRBX DCAAF+ADBRBX DFAAGyADHe DCAAGyADHe DFAAadADHe DCAAadADHe DFAAF+ADArBX DCAAF+ADArB",
  "X DFAApE DCAApE DFAApF DCAApF DFAAKbADHe DCAAKbADHe;531 ADZAFAAft Hu Hv GDC GU3 GGe GP3 GN0 GB",
  "H GMY Gfw GpG Gfx GEv GU4 GJe GEq GpH HI GPK GAJ Gae GEp GP4 GFS GQz GpJ GCe GpK Gfy GpL GHw G",
  "Oc Gfz H0 H1 GXM GHx;559 ADZBCAAArByCi CQt CpMAu CJsAu CFq CJCAu CLZAu CACAACjft Gft Hu Hv GDC",
  " GU3 GGe GP3 GN0 GBH GMY Gfw GpG Gfx GEv GU4 GJe GEq GpH HI GPK GAJ Gae GEp GP4 GFS GQz GpJ GC",
  "e GpK Gfy GpL GHw GOc Gfz H0 H1 GXM GHx FjU3fz FAAJADBM CGUEo COU;58D AafDZf2AB BgDZf2AB ADZpN",
  "AB;591 ACQFH5D0 Ef3 E6Vs EpOpP G5Iv E6gr FLe Fwc FEF FuT Ffa Ef4 G53X EpQ E6IYpR EpS5JR E6EW E",
  "4QC5Ma E53P Fyd EpT G5nP E459 E6IT EpS6Ic E6uQfu6u3 FCA E5jl E46x E6xP CAu5zLB8 CJf6WD Ef5f3 G",
  "ah Hi EpU E6i1 Ef3 Eah Fi Ef6 G5M3AsU5 E6I9 EKQDef7 E50M CDH5y5 CJfaj CDH6ED CJfIaBA EakBA CDH",
  "pV6EM CAuB1BA FvBA CDHF05Mb CJfaipP;5D0 ACQAAB6 EU6 EMb Eal EHV EU5 ENX EpW ETc EP5 EA3Gf EGf ",
  "Eam EA3La ELa EA3F0 EF0 EMc EOd EA3Gy EGy EA3f8 Ef8 F9 EN1 EIa Ef+;5EF ACQP5Cw CAjanA4U5 GU5P5",
  " GA4P5 CDHf4 EpQ;600 AAIAgAB DB6PQ CpXR9 CABpY E6PO DgAuAq AIJf-XN CaoXN AAIpZ AIJXOpaAB EEGCt",
  "AB A4NHAB AAIFq CpbJw C6GdgAAB CAB51y EpcXP6q8 EXP4Px E6KUXP EU74N04OU E6eO DCCPHf GAjB6ADErAD",
  "Bg GMd ENY EPL ENZ COT CAAAu CIrBPQ0Au CFxBADHAu CJCAu CAApdBg EES EB6ADPMAq IESAq EHQADESAq E",
  "B6ADESA+ FgADESAq F6 EG- FNap G EKR EDF ECn EFJ ELb ER+ EHw EMd EGZ EHG EIT Ff EHf ENa EHA EJx",
  " EOeADA7CRAq IBGCRA+ ENbBgADFRDM KA7CRAq KBGCRAq CU8 CAAHx EIC EGf EEr EBc EFK EGj EHQ EB6FE F",
  "g CTd CXQ DR CNY CPL CNZ Dc CR- CpeAq CESAq F+ CHgB6 CFRPL CAuFKXS C6xn CASABACDMAq GFRACDMAq ",
  "GBAA+ CD7PL CNYADA7CR CPNESA+ AIJAQDj EA2 F7 EBG FT Fa F5 ECE EB3 ECJ AAIXDAB CgBJw CR6Jw CBaH",
  "3Fy CAAK7G- GIC EJTB6 EB6aq GADPNESAq N+ ECPES IB6 IHQ EAzADESAq ECPESBg EU9 EXT FU EGNADCi IB",
  "GCRAqC6 EQz EXV FW ECnADESAq IA7CRBYAq EXX FY ECnADBGCRAq ETe EXZ EgC ELbADCi IBAA+ MAaACHf Eg",
  "D FE FF ELbADBGCRAqC6 JTCRAq EgG EHwADACDM ICi IBAA+ IACDMA+ IBAA+AaBAAq IA7CRAq EgH EHwADBTCR",
  "Aq EGZADBAA+AaBAAq JGCRA+ OAaBGCRAq EITADA7CRA+ IBGCRAq EHfADBGCRAq FAADBGCRAq EK7Hx EHxADBA52",
  "yA+ KA+ EXa EHxADBGCRA+ EXb EICADBAAq JGCRAq EOe EUrGf EGfADCi IBAAq ELJ EGfADBGCRA+ EP6 GADCi",
  " EXc EP6ADA7CRA+ EXd EP6ADBGCRAq EErADACDM IBAAq JGCRAq N+ EFKADBAA+ GXS EXe EFKADCi IBGCRAq E",
  "GjXf ETeADBAAq EGjADBgAq GSA IADESAq FNapSA EHQADCi EPOHE EHE EAz EHd EPOHd EHQADA7CRAq EMD EN",
  "bBg EBgADFr IACDM EHQADBAAq EA9 EBgADBGCRA+ GQ1 IADESAq CGUEo CAAIZ DCCPAjITADErADB6FE JCADErA",
  "DB6FE GBcBbAR GErB6 GDF GBGCR GGZ CIrBPpf CXgBParKb5OP CACCPM3Dj G6l+pgDj GK7JVBPFJ GBcBOAR FK",
  "GZ FPPM EHQ EBg ECPBg GFK CTfBP6O8 CM4FUCKEo HPEo D3CPEoAD5GMFU CACCKBc DALbADFRDM EHwADFRDM A",
  "KrIJAQDj GA2 H7 GBG HT Ha H5 GCE GB3 GCJ AAIAAHGADBAA+ EIfADBAA+ EJxADBAA+ DBphRt G6GxPK DAGjA",
  "DFRDM ADsIrBPXh CgIGUEo DJGUEo DIId DJId CCvId CIdasAr Ho CgIIdasAr DJIdasAo C427 CgK6Bp E50O ",
  "E4Pz;70F ADsLZAu CAApi EJTpi EME Epj Gpk Fl EK7plgL EHV FQ EMd F5 EPP Gpk Epm GHV EMe E5r1 Eat",
  " EF0 Epn EA3pn F9 EGy ED7Gy EMf E6IW EgL EIa EMF EGOpo G5KF G47W CgMAq F+ EHP DNAq F+ EHP CppA",
  "q F+ CHPpqCv G4OR CprAq F+ C5M-HP CpsAq F+ C6Nn CobBA C6JO DNU CA7BYCRAq J+ CBGCRAq H+ CMGE-Aq",
  " H+ Cau C4UN;74D ADsAAD+6wq Gpt GOf AAIAAG-ADBGCR5QtA+ JAA+AaBGCRAq JGCREdC-A+ SAaA7CRAq IA7CR",
  "A+AaBAAq IFRACDMA+ IACDM ECnADA7CRAq IBGCREdC-A+ ELbADA7CRSBA+AaACHf IFRACDMA+ EHwADBM EGZADBT",
  "CRAq EHAADA7CRAq IBGCREdC6Aq IA7CRSBAq FxADA7CRA+ IBGCREdC-A+ EOeADBAAq JGCRAq MEdC-A+ EBcADBA",
  "Aq L+ EFKADA7CRA+ JCHf KDM EErADB7 EHwADA7CRSBAq IESAq EGZADA7CRSBAq ECnADACAIAAHfA+ RaA7CR EG",
  "ZADACAIAAHfAaA7CR EHwADACAIAAHfAaA7CR ECnADACAIAAHfAq EB6ADKrIJAQA7Aq OBGAq ENbBgADKrIJAQA7Aq ",
  "QBGAq RTA+ EHQADKrIJAQA7Aq OBGAq EBgQ1ADKrIJAQA7Aq QBGAq ECnADKrIJAQBTA+ EGZADKrIJAQBTAq IFRDM",
  " FfADA7CRAq AGgAAPQ E6Vz E59a EXi Eav E5sx FmU E4Nv E6nq E5z2 FFW E47T EXj E5q1 FIt FK3 E6QH E",
  "46C E6we Fek EU+ E6ET E5kt E4nA Epu Fv Fw E6fc Epx E6V4 FO0 E45h EBH EOg E4Nc E5KE E6IR Fqt C4",
  "Mm DLI C5Sb DCr C6lR DCO C5Cn DER C6Bt El CR- CAAU-;7C0 AFkAQDj EA2 F7 EBG FT Fa F5 ECE EB3 EC",
  "J DAAW EHR EA- F9 Fz EGs EA6 E45p ECc EDl ECa F3 EEq EFS EDC ECe ELK EC7 EgO EHW EBe ECu Fxpy ",
  "Fq EFV ECx FG EEw EC1 EFVpy EgPEq GFS GCe DiE1CPCL HKCL GM6CL ECsgQCL GCPCL HKCL GM6CL EgRAu E",
  "A4BAAq CCPCLQt DKCLQt CAMGs469 E5JE CFq CJsAu C5rH;7FD AFk455 D80AB C6eRAB BlAA4Nl Epz E5I0 E4",
  "5x EgS Eav EXk EgT Ep0 Eaw Ep1 E5q5 Eat EF0 E6Xc EFg EPR E6iy FJA EgL EG6 E6d- DuFg E5jw E6By ",
  "EKQ CBCAAp2aw CAup2aw DSABCsA9 GA9 Gp3Dw GCsDw GDw Gp3AW GCsAW GAW CBCAAE1AW CASABE1AW GCsAz G",
  "Az CBCAAA- CASABCsA- GA- H6 GR- Dup4;830 AFlDHp4 E4NJ FOK FUV FQB E6WM CLZAu CDH5z9p5 E6xS Ep5",
  " E6wS Fjm E4PP EpV5zK E4Ob;840 AJFAA5Mm EK9 Eax ETg EOh E6mL Ep6 EgT E4QE FNh EVA EMH EP7 EH4 ",
  "ENd EFg Ep7 E4P6 EXl EgU EF- EJc E5BY Fmc EHA C4NGAu C6peAu CXmAu;85E AJFDH;860 ADsAACVEk Hq G",
  "FV GGa GHB GXn GHH GCe GJg GVB GHh;870 AAIAAB6ADK+NY KGzAoNY IAoBRBM JrBRBM IK+NZ KH5AoNZ KNzB",
  "AAq KAoNzBA LrNzBA KNzBAA+ IBAAq IK+GzAoNYAaBAAq IAoBRBMAaBAAq IK+H5AoNZAaBAAq KGzAoNYAaArCi I",
  "AoBRBMAaArCi IK+H5AoNZAaArCi KAoES LrES CU8ADp8ES IHQ GA7CRA+ CAAayBg Cp9NzBA CIRNzBA CAAFKADF",
  "RACDM ECnADFRACDMA+ EHfADBAA+ JGCRA+ EOeADA7CRSBA+ CBYFr;890 AAIaOAuAq C6FcAuAq;898 AAIACCPKc4",
  "Nj FKKc5ka Jjn I6ef CPM6qs CJTB652V CXoPM CByPMCWPM CAAG-ADACDMA+ IESAq EDFADA7CRAq EHfADA7CRA",
  "q FxADBAA+AaBGCRAq EICADBAA+ EErADA4B7 EBcADBGCRAq FgADA7CRA+AaESAq QBAAq EHwADJd FQADBATh EGb",
  "Bg ECKB6 ELbADBGCRA+ EITADBGCRA+ EP6ADFRBM EIBHQ EMdADFRDMAq EHAADBGCRA+ EGfADBAA+ EICADBAA+Aa",
  "HiCRAq EG-ADACBcAq EQzADACBcAq EGNADACGNAq EHwADACFKAq EBgADA7CRA+AaACFKAq EXGHx GIC GFK EQzAD",
  "ACDM EGNADACDM EU9ADACDM ETeADACDM EOeADACDM EJxADBGCRAq EXGICADBGCRAq EDFADBGCRAq N+ EErADACA",
  "IAAHfAq E5LO DCNbBg ECPNbBg GBgQ1ADA7CRA+ GKcp+ GNa CDmNzBAAq J+ CR-A+ CDmB8A+ ENzBALcB8A+ CAC",
  "CKHQ FPKc4O- GIT GHA GIC GFKADNZ FKFKADNZ FPKc4P7 Kk JOF I6PC JIw Jq5 GpXR9 GABpY C48OIrBPpf C",
  "CjPLA+ CIANY EPL ENZ ETd EXQ FR CCLA2BAAq F7CRAq EJdAq EA2BAA+ F7CRA+ EJdA+ D0Td EXQ FR CACCPH",
  "Q CNYADCi GBAAq DZADBAA+ CArEjAq DoEjAq DrEjA+ DoEjA+ D4AoEjAq KADBA DoEjAqADBA CPLADBA CAuLdF",
  "KXS ABwABFRIS EIS EGP EHy DAE1AW EAW EDw EA- EET EAz EEs EB+Bm Hz EM7A9 EE1A9 EA9 EEP EM7A6 EE",
  "1A6 EA6 EEl EBe EFW EDI EG0 EEk Fv EFS EEq EID EFV EGa EHS EGh EHj FB EC3 EFs EDC EGt ECx EXn ",
  "ECa EGF EDl EHH ECq F1 Fe ELK ECu EJg EVB EGG EEp EHh EC7 FG DSABHE Gp- DBKE EMg DSABDw GA- GE",
  "T GAz GEs GB+Bm IHk GM7A9 GE1A9 GA9 GEP GM7A6 GE1A6 GA6 GEl DBHX DSABgVA9 HW CN2 CXpABaz GXq C",
  "FAFH CDiFH CASABM7CsA9 GKd GgX DALI EqA EgY EGe EqB EQy EHW Ea0 EB+Hk GIK DSABB+Bz IIK CI6 CA4",
  "I6 DQDj EA2 F7 EBG FT Fa F5 ECE EB3 ECJ CLZAB CABCPgZBA DAM7AW EHE Ep- EgW EKd EgX E5zGGh EKs ",
  "EBQC1 EVC EXr EIHEo Ea1 ETi ADaga CABIS EGP EHy;985 ADaAAAW EDw EA- EET EAz EEs EB+Bm Hz;98F A",
  "DaAAA9 EEP;993 ADaAAA6 EEl EBe EFW EDI EG0 EEk Fv EFS EEq EID EFV EGa EHS EGh EHj FB EC3 EFs E",
  "DC EGt ECx;9AA ADaAACa EGF EDl EHH ECq F1 Fe;9B2 ADaAACu;9B6 ADaAAEp EHh EC7 FG;9BC ADaABKE EM",
  "g DSABDw GA- GET GAz GEs GB+Bm IHk;9C7 ADaASABA9 GEP;9CB ADaASABA6 GEl DBHX DA5nsC3;9D7 ADaElM",
  "8Au;9DC ADaAALK EQy;9DF ADaAAa0 EB+Hk GIK DSABB+Bz IIK;9E6 ADaAQDj EA2 F7 EBG FT Fa F5 ECE EB3",
  " ECJ DACeADBRC+ JvC+ CSCAu FB CPvVDA2 H7 GBG HT GA25soVEHIqC EqCP8 CqD C5I4Au CAAGuGP CLZAB CQ",
  "2Au;A01 AEUAB4MxqE EqE EHy;A05 AEUAAAW EDw EA- EET EAz EEs;A0F AEUAAHR EEP;A13 AEUAAGs EEl EBe",
  " EFW EDI EG0 EEk Fv EFS EEq EID EFV EGa EHS EGh EHj FB EC3 EFs EDC EGt ECx;A2A AEUAACa EGF EDl",
  " EHH ECq F1 Fe;A32 AEUAACu EJg;A35 AEUAAGG EEp;A38 AEUAAC7 FG;A3C AEUABKE;A3E AEUASABDw GA- GE",
  "T GAz GEs;A47 AEUASABHR GEP;A4B AEUASABGs GEl DBHX;A51 AEUAB6lS;A59 AEUAAqA EgY EGe ELK;A5E AE",
  "UAAHW;A66 AEUAQDj EA2 F7 EBG FT Fa F5 ECE EB3 ECJ C6gs C4My C5kT C6mC CVF6CM CAB6t1 CLZAB;A81 ",
  "ADnABIS EGP EHy;A85 ADnAAAW EDw EA- EET EAz EEs EB+Bm Hz DSM7A9;A8F ADnAAA9 EEP DSM7A6;A93 ADn",
  "AAA6 EEl EBe EFW EDI EG0 EEk Fv EFS EEq EID EFV EGa EHS EGh EHj FB EC3 EFs EDC EGt ECx;AAA ADn",
  "AACa EGF EDl EHH ECq F1 Fe;AB2 ADnAACu EJg;AB5 ADnAAGG EEp EHh EC7 FG;ABC ADnABKE EMg DSABDw G",
  "A- GET GAz GEs GB+Bm IHk GM7A9;AC7 ADnASABA9 GEP GM7A6;ACB ADnASABA6 GEl DBHX;AD0 ADnN2;AE0 AD",
  "nAAB+Hk GIK DSABB+Bz IIK;AE6 ADnAQDj EA2 F7 EBG FT Fa F5 ECE EB3 ECJ CLZAB CSCAB;AF9 ADnAAKs D",
  "BR- ENc Epe E6f6KEAq EB8KEAq EgbKEAq;B01 ADoABIS EGP EHy;B05 ADoAAAW EDw EA- EET EAz EEs EB+Bm",
  " Hz;B0F ADoAAA9 EEP;B13 ADoAAA6 EEl EBe EFW EDI EG0 EEk Fv EFS EEq EID EFV EGa EHS EGh EHj FB ",
  "EC3 EFs EDC EGt ECx;B2A ADoAACa EGF EDl EHH ECq F1 Fe;B32 ADoAACu EJg;B35 ADoAAGG EEp EHh EC7 ",
  "FG;B3C ADoABKE EMg DSABDw GA- GET GAz GEs GB+Bm IHk;B47 ADoASABA9 GEP;B4B ADoASABA6 GEl DBHX;B",
  "55 ADoABR1 CEPM8Au DlM8Au;B5C ADoAALK EQy;B5F ADoAAa0 EB+Hk GIK DSABB+Bz IIK;B66 ADoAQDj EA2 F",
  "7 EBG FT Fa F5 ECE EB3 ECJ CqD CAAEw CDPA2Ht GBy EBGMx EA2VG GHz EBGa2;B82 ACTABGP EHy;B85 ACT",
  "AAAW EDw EA- EET EAz EEs;B8E ACTAAA9 EHR EEP;B92 ACTAAA6 EGs EEl EBe;B99 ACTAAEk Fv;B9C ACTAAE",
  "q;B9E ACTAAFV EGa;BA3 ACTAAHB EC3;BA8 ACTAACx EXn ECa;BAE ACTAACq F1 Fe ELK ECu EJg EVB EGG EE",
  "p EHh EC7 FG;BBE ACTASABDw GA- GET GAz GEs;BC6 ACTASABA9 GHR GEP;BCA ACTASABA6 GGs GEl DBHX;BD",
  "0 ACTN2;BD7 ACTElM8Au;BE6 ACTAQDj EA2 F7 EBG FT Fa F5 ECE EB3 ECJ DgEG EA2CM Ht CIgAB CgcAB Cq",
  "FAB C46lAB CgdAB CNdAqAB CSCAB CAgAB;C00 ADKABAiISAq EIS EGP EHy EAiGPAq DAAW EDw EA- EET EAz ",
  "EEs EB+Bm Hz;C0E ADKAAA9 EHR EEP;C12 ADKAAA6 EGs EEl EBe EFW EDI EG0 EEk Fv EFS EEq EID EFV EG",
  "a EHS EGh EHj FB EC3 EFs EDC EGt ECx;C2A ADKAACa EGF EDl EHH ECq F1 Fe ELK ECu EJg EVB EGG EEp",
  " EHh EC7 FG;C3C ADKABKE EMg DSABDw GA- GET GAz GEs GB+Bm IHk;C46 ADKASABA9 GHR GEP;C4A ADKASAB",
  "A6 GGs GEl DBHX;C55 ADKM8Au CEPM8Au;C58 ADKAAI7 EN3 E6M4;C5D ADKAAqGqH;C60 ADKAAB+Hk GIK DSABB",
  "+Bz IIK;C66 ADKAQDj EA2 F7 EBG FT Fa F5 ECE EB3 ECJ;C77 ADKABDQ CDPAQDjAsTjTkBPBT GA2AsTjTkBPB",
  "T H7AsTjTkBPBT GBGAsTjTkBPBT GA2AsVHTkBPBT H7AsVHTkBPBT GBGAsVHTkBPBT CAB6jr BtABgZIS EIS EGP ",
  "EHy EDQ DAAW EDw EA- EET EAz EEs EB+Bm Hz;C8E ADtAAA9 EHR EEP;C92 ADtAAA6 EGs EEl EBe EFW EDI ",
  "EG0 EEk Fv EFS EEq EID EFV EGa EHS EGh EHj FB EC3 EFs EDC EGt ECx;CAA ADtAACa EGF EDl EHH ECq ",
  "F1 Fe ELK ECu EJg;CB5 ADtAAGG EEp EHh EC7 FG;CBC ADtABKE EMg DSABDw GA- GET GAz GEs GB+Bm IHk;",
  "CC6 ADtASABA9 GHR GEP;CCA ADtASABA6 GGs GEl DBHX;CD5 ADtM8Au CEPM8Au;CDD ADtAAqGqH EHW;CE0 ADt",
  "AAB+Hk GIK DSABB+Bz IIK;CE6 ADtAQDj EA2 F7 EBG FT Fa F5 ECE EB3 ECJ;CF1 ADtABVI FJ;D00 ACVABAi",
  "GPAq EIS EGP EHy DAGuGP EAW EDw EA- EET EAz EEs EB+Bm Hz;D0E ACVAAA9 EHR EEP;D12 ACVAAA6 EGs E",
  "El EBe EFW EDI EG0 EEk Fv EFS EEq EID EFV EGa EHS EGh EHj FB EC3 EFs EDC EGt ECx EXn ECa EGF E",
  "Dl EHH ECq F1 Fe ELK ECu EJg EVB EGG EEp EHh EC7 FG EqI DBBYB7HX EXsHX EMg DSABDw GA- GET GAz ",
  "GEs GB+Bm IHk;D46 ACVASABA9 GHR GEP;D4A ACVASABA6 GGs GEl DBHX DABA6LP DBpR;D54 ACVAAQ3Cz GDk ",
  "G5tj CElM8Au CDPA2qJ HK EBGqL EA2qM Gge EBGqN EA2gf CAAHbET EB+Hk GIK DSABB+Bz IIK;D66 ACVAQDj",
  " EA2 F7 EBG FT Fa F5 ECE EB3 ECJ DgEG EA2CM Ht CDPA2Ht GBy EBGMx EA2VG GHz EBGa2 CpbAu CAAQ3Xt",
  " GCc GHk GBz GIK GDJ;D81 AC2ABIS E4On E6pW;D85 AC2AA4Qe FLR FNF FM+ E5ki Fjd E6mY GV E5kW GV F",
  "jm Gk FEQ FCv E4Nf E6Cv GS E4QV;D9A AC2AAP9qO F+qO F9gg F+gg E5mpqP Ea3gg EP9qQ F+qQ F9gh F+gh",
  " EgiqP G6PX54p Ea3gh EP9qR F+qR F9gj F+gj EgkqS Ea3gj EP9qT F+qT F9gl F+gl EgmqS;DB3 AC2AAa3gl",
  " EP9qU F+qU F9gn F+gn E5zY E4N9gn E6uG FKo;DBD AC2AAgmqV;DC0 AC2AA6n7 Egigo Fkgo Fmgo E5M+ Egk",
  "qV E5Fy;DCA AC2AB4Nk;DCF AC2ASABgp HqqW GTlqW GgqqX GTlqX GgqqY;DD6 AC2ASABTlqY;DD8 AC2ASABqZ ",
  "GXu GTlXu G5pI46z GXuPQgp KTlgp Kgr Ggr;DE6 AC2P-AQDj GA2 H7 GBG HT Ha H5 GCE GB3 GCJ;DF2 AC2A",
  "SABTlqZ Igr CDH5p4;E01 AD3DfKFUv EOiqa G5n3 I6 Iy G6Kb ETm57P EPS4ZX Hnd HZY EJyJy EPS4np EIh6",
  "um ELL4ZS EBH6EO EK-VE G54z G6FY EHigs ELL46y EBH6eX EK-6gE Hfd Gqb EHiIe EOj4T9 ELta4 EPT6FX ",
  "FUHW FT6FK FUqc FT6PN EKtCq EIhgt EJz6NP EKe ELMqd EJ0 EKS6qv EJy6PE HNj Ggu FeVK ELM4nz EA6N4",
  " EJe59S E6DR ENeAW EKu5Mr ENeDw GP7 GA- GET GKd G6lX GAz GEs E6FQ;E3F AD3PvAM4T8 CDfNeA9 GIZ G",
  "A6 GEP5yi Kh E5r0 Fyl Gk EKuVF GK- G6h6 G4m+ E6fh E571 E6t4 E5G8 CAQDj EA2 F7 EBG FT Fa F5 ECE",
  " EB3 ECJ CDf4ON E5nx;E81 AEKAAKF EOiVL;E84 AEKAAOiTn;E86 AEKAAN5G0 ETm EOc EN5FS EJyTn;E8C AEK",
  "AAN5ID EQ4 EN5FV GGa GHS GGh GHj HB ELL EBH EK-VL GTn EN5Gt EHi EOj ELt EPTVL FUTn FTTn FUVL E",
  "N5HH EKt EIh ELMqd;EA5 AEKAALMqe;EA7 AEKAAKS EqfEp GHh EJyVL FeVL EN5Jg EA6 EJeTn CSD CASABAW ",
  "GKuVM GDw GP7 GA- GET GDk Ggv GAz GEs DBN5HX DSABKuqg CqhABLM GQ4;EC0 AEKASABA9 GQ5 GA6 GOk GE",
  "P;EC6 AEKKFCu;EC8 AEKCLKuVF GK- GLe G4Yh Ca5Au C57v;ED0 AEKAQDj EA2 F7 EBG FT Fa F5 ECE EB3 EC",
  "J;EDC AEKJeHi EKt CAAqiNf GQ4;F00 ABZAEN2 DuXvOlM96iqAW KqjqkqlCq MXvPVCq EBbOlM9qmCq EXwOlM9q",
  "nCq EQAOlM9qoMhCq EOlM9PVMhCq E6PoMh E4W0OlM9 FV1qpOlM9 E5kJPV Ea6PV4W1 EMh Ea7Mh EPVMh Ea7PVM",
  "h E6MH4nL6ZTMh EqqqrMh EQAqsN6IUCsNg EXvPV CqtAB4ZRN6 G5swN6 CQ6AB6Vk5JL4ABN6 G4ACCa G6P66i5 C",
  "ABQBXxqu Jv Igw Hyqu Jv HxQBXy DQDj EA2 F7 EBG FT Fa F5 ECE EB3 ECJ EByA2 H7 GBG HT Ha H5 GCE ",
  "GB3 GCJ GDj Du4WyN6 EqwqxNhqy EQAqsN6gxqzNg Eqwqx6VjN6 EKPM9 EI74AD Eq0N6q1 J2 EN4q3q1 J2 DBq4",
  "q5 F6q5 DABe EFW EDI EG0 EEk Fv EFS EEq;F49 ABZAAFV EGa EHS EGh EHj FB EC3 EFs EDC EGt ECx Fa ",
  "EGF EDl EHH ECq EI7 EM+ EN3 EXz EEw EKs EGe EVN EC1 Fe Fu EEp EHh EC7 FG EAW EX0 Ea8Ce Egy ELK",
  ";F71 ABZASABDw GA- GET GAz GEs GB+Bm IHk IBz IIK GA9 GHR GA6 GGs DB6MRKvEkJz Eqkql DSABD7A- IE",
  "T DBNhqyU-DC E6YR5sO Dugz E6DZ DB5sLN6 EOZN6 Eq7I7Ng Ea9Ng Eq8Ngq9 G5zyq9 EFRa9Ng CEAABq7I7Ng ",
  "Ga9Ng GFRa9Ng FABe GFW GDI GG0 GEk Hv GFS GEq;F99 ABZEAAAFV GGa GHS GGh GHj HB GC3 GFs GDC GGt",
  " GCx Ha GGF GDl GHH GCq GI7 GM+ GN3 GXz GEw GKs GGe GVN GC1 He Hu GEp GHh GC7 HG GAW GX0 Ga8Ew",
  " IC1 Je;FBE ABZKwKeFW IgxqzNg Ca+ABBQq+ H-q+ G4YN6ey G6Pp4AA CAM5BAJ1 Eq-rA E6DK5JM Eq-rAqqqr ",
  "FoCa ENiJ1 Ia7g0 Igwg0 Jxg0;FCE ABZABQBXyQBXx Igw Du4WzqpKTM9rB E512OlKTM9rB Ea7PV EBbrCrDOlM9",
  "qmCq EXwrCrDOlM9qnCq Aafa-AB Bga-AB Bfa-ABADCR Bga-ABADCR ABZAu5sQrEN6 E6hrrEN6;1000 ABSAABe E",
  "FW EDI EG0 EEk Fv EFS EEq EID EFV E59L EGa EHS EGh EHj FB EC3 EFs EDC EGt ECx Fa EGF EDl EHH E",
  "Cq F1 Fe Fu EEw EC7 FG EJg EAW EG6AW EA- EET EAz EEs EA9 EN7A9 EA6 EEl DSABVODw GDw GA- GET GA",
  "z GEs GA9 GEP GN7ET IA6 GA9Aq DBGP EBAA+ EHy FX E4Pn CDzABDRC1 Je IEw ICG CAAVPC7 DQDj EA2 F7 ",
  "EBG FT Fa F5 ECE EB3 ECJ DBE7Hs EHs DM5tq E4qn FNI E5Jb DAEp EHh EB+Bm GHk GBz GIK DSABB+Bm IH",
  "k IBz IIK DAN7Ek GID GTi GX1 CDzABN7DRCx Lq Lu CAAbALuEp DSABbALuQ7 CCLAubALu5M5 KLAPT CAAQCNj",
  "LuFs KX2 DSABQCNjLuQ7 MKd DBQCNjLuX3 KQD L8 KTo KQE DAbBNjLuHB Kg1 K5KZ DSAB5JOLuA- GGcHE IAz ",
  "IHR DAG6Be GFW GDI GEv GGe GFV GDC GCx GGF GHW GDl GFs GCG CDzABG6DREw CASABG6Dw IA9 KAq J3Dk ",
  "DBG6QD H8 HE GbC Gg2QD J8 I5DHCL DArFbDHW DBrFbDQE CG6AQDj GA2 H7 GBG HT Ha H5 GCE GB3 GCJ CAB",
  "KGX3 GQ8 DSABVQAW IEP DMG6A2 GJs BqAFAAH4 GbE GTp GbF GF+ GbG GXk GbH GFg GVM GbI GKx GX4 GFL ",
  "GbJ HK GVR GU0 GTq GQ9 GbL HM HN GX5 GIa GbO GNg GX6 GbP HQ HR HS HT GHV GX7 GJv GVS GbU;10C7 ",
  "ABqAFAAVT;10CD ABqAFAAVU;10D0 ABqAAH4 EbE ETp EbF EF+ EbG EXk EbH EFg EVM EbI EKx EX4 EFL EbJ ",
  "FK EVR EU0 ETq EQ9 EbL FM FN EX5 EIa EbO ENg EX6 EbP FQ FR FS FT EHV EX7 EJv EVS EbU EPR EVT E",
  "rG ECjTp EHA CXhJw BCAABqX4 BqAAVU EP1AB ErHAB AAfCZSE EbV ESF FG EbW ESH FI FJ EbX ESK EbY EQ",
  "+ F- EbZ ESL FM FN FO FP ErI Eg3 F4 E57r ErJ FK FL Eba ErM Eg5 F6 ErN E6Fm Eg7 Ebb ErO Eg8 E6F",
  "q Gs Gp Eg9 ErP FQ FR Eg+ ErS Eg- ErT EhA ErU FV EhB E6Xm Gn Gh EhC ErW E6Xj ErX E6Xl ErY E4nk",
  " Gm FZI GK EhD ErZ E5jX GP GS GU GQ EhE E5jM GL GW GR EhF E4oH Fnj Gl FZH GJ FnY GX Gi FZG Era",
  " EhG Erb EhH E5om EhI Ebc Fd Erc ERA CDgRA EAW EIZ EC1 EXL F8 EA9 EhJ EMi EA6 EEw EhK EHE EIh ",
  "EAz EhL EJv EKy EHd EQ7 EAJ F- E4AI GJ E6ti Erd E5Da Gb GZ E6uN GO FAS GR GY GT GV Ere Ff E6u0",
  " Gz Erg E6kW GX GY Gb Ga FvI GL GK Erh Fi E6vN Erj E5D6 G4 E6uf E5R4 FSA FR9 G- G7 G5 Erk E4PD",
  " GF GE E6Zc E4AH E6tj FuP FAW GX CCOSE EbV EhM ESF Ebc Fd ESG FH Ebe Ff Fg Fh EhN FO Eba ESI F",
  "J Ebb ESK EbY EQ+ F- ESL FM FN FO FP E5ok Gl ErI Eg4 EhI Erl E57t ErJ Fc Fm FK EhP E6L8 ErL E6",
  "L0 G1 Ern E6L2 Ero E6L6 Erp Fq Fr Fs E51W Eg5 EhQ E51Y Ert E51R GT Eg6 E6Fn ErR Fu Eg+ F- EhA ",
  "ErU EhB FD ErZ E5jV EhE E5jO EhF Erv Fw Fa EhG E5OB GD GA GC EhH E5oi Gj Gf Gh Gg Eg3 BlAECG E",
  "Nk EH6 EPQ Ebi EHV EJe E5Pt ECu EJ0 EFX EX9 Ebj EGk ELM EhR ERB E5Np Gn Epv E5Nm Gl Go Erx ECq",
  " EHc EI8 EhS FT EIU EKt Ebk E6dC GI GG GD GF GE GH GJ ECe EKe EMj EXi F+ ELv EJz Ery EC7 EKv F",
  "f Ebl ETr EKz EJy EhU EEp EM- EVV Erz Ebm EG7 EPH EhV ELI EX- EYA EhW E6Ib Ebn Fo E6I1 FJS;124",
  "A AAlAEr0 E6JT Er1 F2;1250 AAlAE6Ie Gm Gj Gf Gi Gh Gk;1258 AAlAE6In;125A AAlAE6Ir Go Gq Gp;126",
  "0 AAlAEDl EJ1 ELf Eav EVW EM0 EOj Er3 EGG ETs ERC Er4 ESQ EMD EP4 E6p5 EC3 EKH ELe ETt EVX EH2",
  " EBH EhX EEv EhY Ebp EhZ Er5 ERD EOc Eha ENA E6s+ EMz E6sl Gp EVY Er6 E6s3 FtC;128A AAlAE6tG G",
  "D GF GE;1290 AAlAECx EIe FL EU- Ehb EIM EHi Ebq EFV Ehc ENh Er7 F8 Ehd EQ4 E5-v EIHAW Hz H- GD",
  "w GHR GA9 H6 GEw EBe EKw FU Ebr Ehe ELA EKF E5o- Ehf;12B2 AAlAEbs Ft Er9 Ebu;12B8 AAlAEhg E5qX",
  " GV GS GU GT GW;12C0 AAlAE5qY;12C2 AAlAE5qc GZ Gb Ga;12C8 AAlAEEw EPW EKy EYB Ebv EJv EKS E6r1",
  " ERzAW Hz H- GDw GHR GA9 H6;12D8 AAlAEGe EOm EPX Epx EYC EKq EOg E6xm EKs Ehh Fi E6wp Ebw EMY ",
  "Ehj E6xA EC1 EHd EAJ EU+ EVZ EMi EIh E6u2 EDC ELg Fh Er+ EVa EKp ELL E5Bk EGh Er- EsA FB E46K ",
  "EsC Ehk E46i EEq ETu ESR EsD EVb EOb EPY EsE EDI EMI EKT EYD FE EQF ENf E5K4 EsF;1312 AAlAEsG ",
  "E5L0 EsH FI;1318 AAlAEVC EsJ FK E5Jl Gp Ehl EsL E5J9 EFs Ehm ETv EXj EYF EHI EK- Ehn EFS Ebx E",
  "Ju EsM Eby EKP EPS E4n8 EGF E6FW EKB EsN E6FL Eho EPT E6FZ EI7 Ebz ETw E6ix EsO ENW Eb0 E6i9 F",
  "kI GQ GM GJ GL GK GO GP EHW ERE EPR Eb1 ETx EOf EPU EsP ECa EN8 EGW Eb2 ERF EGy ELt EX2 E6Nu E",
  "Vc E5Ho;135D AAlAiXmAaASM8Au EASM8Au EXmAu CHsAu C6r8 CGUEo CFq COT CId C6HEId CJCAu CXhJw CAQ",
  "A2 F7 EBG FT Fa F5 ECE EB3 ECJ DgEG EGl EI9 EJh EIN EMJ EIV ENB EH0 ECM EEGCt;1380 AAlAEb3bk F",
  "4 EsQ Ehp Eb3r3 EsR FS E4XT Eb3sP EsT FU E5Hm Eb3X2 F5 EsV Ehq CNlAu6up G47E GsW GE1sW G47w G5",
  "nT G4ng G5N+ G47F G5qC;13A0 ABrAAAW F9 F- F6 Fz EDM FI EBe EQF EKT ENf EMI EsX ECG EHV F6 EJe ",
  "ENk EaR ECu EGk EFX ELM EJ0 EsY ECq EIU F8 EKt EHc ECx Ehr Fs EIM FL EHi EIe Eht EsZ Fa Fb Ehu",
  " Fv Esc EC7 EBn EKz Ff EJy EKv Ehw EDC EC3 EKp EH2 ELh Fe FL Fg Esd Eb6 Ehx Fy Fz F0 F1 Ese EI",
  "7 ENW ETw Eb0 Fz Esf EEw EJv EKy FS EPW Esg EC1 EMi EAJ EIh EHd Esh EYG;13F8 ABrACAAMi GAJ GIh",
  " GHd Gsh GYG;1400 AAUAVOU EA9 Esi EA- EET EA6 EGs EOnGs EBjHR GA- EAW EDw EJv EDuJv EKy EDuKy ",
  "Esj EDusj EKS EDuKS EYH EDuYH ENCYH EEw EDuEw EYB EDuYB ENCYB EEP EOnEN EIHEo EA3Di GFA GH5ByC",
  "i GGzByCi GAoByCi GCi GA4Di IE1BYh2 GBRBA GE1CvBM GBk H4II EF+ Fg FL EH4 EGy E6DB EGW EYI ELt ",
  "EYJ EOnYJ EBjbi GH6 ECa Eb2 Ehq EDuhq Eb5 EDub5 Esk EDusk ENj EDuNj Esl EDusl EX2 EDuX2 Eh3 ED",
  "uh3 EOnh3 ED8 FuD8 EBjDV EH2 E6eA ELe E6gd EBH EVd EOnVd EBjVa GLh EC3 ETt EYK EDuYK Esm EDusm",
  " Esn EDusn EA7 EDuA7 Eso EDuso EhX EDuhX Eh4 EDuh4 ENCh4 EDG EYL Esp Eh5 EGa ELA E5mV EKU E5oN",
  " EKF EYM EOnYM EBe Ebr Fu EDubu Ebs EDubs Esq EDusq Esr EDusr Ess EDuss Ehf EDuhf Ebt EDubt EN",
  "Cbt EDJ Eh6 Eb7f1 G5oM HpE Gst ERD E4X4 Ebp E4oL EOc Eh7 EOnh7 EEv EhZ Esu EDusu Eh8 EDuh8 Esv",
  " EDusv Esw EDusw Esx EDusx Eha EDuha Eh9 EDuh9 ENCh9 ED2 EMKSS EIU E5yJ EI8 E51b EKt Eh+ EOnh+",
  " ECq EhS Fp EDuhp Eb4 EDub4 Esy EDusy Esz EDusz Es0 EDus0 Ebk EDubk Eh- EDuh- ENCh- ECz EDuCz ",
  "E51A Es1Cz EMKCz EIM E54o EIL Es2 EHi EiA EOniA ECx EU- Es3 EDus3 Ebq EDubq EiB EDuiB ENCiB EC",
  "c EBjLJ E57a EGk E5q0 EFX E5tE ELM EVe EOnVe ECu EX9 Es4 EDus4 Es5 EDus5 Es6 EDus6 Es7 EDus7 E",
  "s8 EDus8 EhR EDuhR Es9 EDus9 EBz EDuBz FRBz EKz E6O1 EKf EYN EJy EYO EOnYO EC7 Ebl Es+ EDus+ E",
  "s- EDus- EtA EDutA EtB EDutB EtC EDutC EhU EDuhU EiC EDuiC ENCiC EBn Es1Bn EtD ELwBn E52k6X2 E",
  "NC6X9 HN1 HZU HbA HX+ HP4 EG7 EVV Eb8 EPH EiD EEp Erz ETy EDuTy EtE EDutE EtF EDutF EtG EDutG ",
  "EtH EDutH EhV EDuhV EtI EDutI ETz EMi E6tl EAJ E6ul EIh Eb9 EOnb9 EC1 EU+ EtJ EDutJ EtK EDutK ",
  "EtL EDutL EtM EDutM EtN EDutN Eg1 EDug1 EiE EDuiE ENCiE EDk E4VYDk EDuDk EMKAJ ELv EtOLv EDuGk",
  " E6KJ EMj Eb+ EJz EtP EDuLM ECe EXi EDuCu EtQ EDutQ EBm EDuBm FRBm EOf E5FX EPR E5GL EPU EiF E",
  "HW Eb1 EtR EDutR EEz EHI EiGHI ETv EiGTv FH FGiH EK- EiI EFs EXj EiJ EDuiJ ESS EtS FT Eb- EHS ",
  "E6jB FkA GB GC Fj+ ESTHV H6 GtU GJe GYP GCG GPQ GDV E5-FDV FOQ E6IS EYA EtV Ebo EiK ELI EhW EF",
  "w EtW FX FY EiL EDuLv GMj GJz GCe E56U EcA E567 ETm E57L EEk EcB ELJ E59C EMKG7 GVV GPH GEp EN",
  "9HI GTv GK- GFs GSS EtZ E5s0 Eta E5s1 ER8 Etb EiM ESUHI GTv GiH GK- GiI GFs GXj GSS E4NeBD ELw",
  "A9 H- H6 HW GJv GKy HS GEw GIM HL GHi GCx GLA GKU HF GBe EMKHV H6 GJe GCG EBj5KY Gtc GLr G5KK ",
  "IU GG0 GKe GJz GLv GX+ GMj GCe GPW GKS GJv Gbv GKy GEw G5RS IR GiN G5RP IQ IN Ghm GK- GHI GYF ",
  "GTv GFs G6jN Gh5 GYL G6jA Gsp GGa GN8 GLt GGy GRF GGW GCa GD8 GMI GNf GQF GYE GKT GDI G5n2 GOi",
  " GiO G5nu GcC GFW G5or Iq In Io Ip Ggy GcD GIe GHi GIM Ghb GIL GCx GHc GKt GIU GhT GI8 GCq GHd",
  " GIh GMi GVZ GAJ GC1 GTu EMKTu EBjPY GOb GVb GSR EMKSR EBjEq Gtd He G5lG IH Gtf GXr GJ0 GLM GG",
  "k Gbj GFX GCu G48m Il Ig Ih Ik Gb6 G5s2 Gta G5sy Iz GtZ GR8 G6g4 GtY HW G6g2 GtX GiL Gh1 H0 Hy",
  " G6g1 Ghz Hx GOm Hg GKq GYC GPX GGe GDd GBbDd Gtg Hh GR4 Gti Hj GN3 GKv GJy GKz GTr GKf GC7 GM",
  "- GPH GG7 Gbm GVV GEp GTz Gbz H0 GNW GsO GTw GI7 Gbx GPS GKP Gby GJu GFS G6jL IK IH II IJ IG E",
  "JuAB EGUEo Etk E56W F9F GG GH GI GD GE EN96gI IJ IK IL IM Ghn GiJ GA3SS ELwEN AJGKlAu CAA4VF E",
  "5uP FF1 E6O6 E576 E6lO E45w E6gq E4qa FZA E53H FLI F6d E6ak FNT E4Na Etl ERG E5Ch FkO FCg EDe ",
  "E6lg E5ja FCi E6Ek CcEAu CD7cEAu;16A0 ADxAA5F55F8OfEz EDM E6mIRGAz Eof EDk EEN E6gF6gGRv ERu E",
  "4OeAW EtmA6 EcFAW Etn E5t3A6 E6WZA6 EA6 EHE EFL E6KXcG6LCBm E5m6 E4ZE E5m5DJ EDE EOW E5JP5L8DE",
  " EJH E6sPaSEN E5MdDV GZDV Ft1DV E6WWDV E5475-W546Cc E6WYCc E5A2 FkYVf5kcA- EA9 E5k0EW FJe Ft0I",
  "Z E6WUAW E5kg5Dc E6E56EwD8 E4Nt5Dd E6YxBn FXU5t4Bn FWaBn ED2 Fd E6gyT06kHDG FWbDG EDU E4VM4VK4",
  "V0BD E6WVBD E5A3 E6CV E5CyP3A9 FyxKxCz Ft2Cz E6WXCz E5sG5rD5tuBz FA1 Fj+ EiP E45o45kDU E6Cj5Dz",
  "A6 ET1 E5kQ E436 FYD G7 E6aI E5t5 E6Wc E5Sc EFw ED9 CEQDH CN+DH CGVDH C4PRAM C6juAM C4VGAM CAA",
  "DJ ETz EGs EYQYRtm IVf IP3 IcF Itn;1700 AKgAAAW F- Fz EBe EDI EEk EC3 EDC ECx Fa EDl ECq F1 Fe",
  " Fu EEw EC7 FG DSABA- Hz DBHX Eto;171F AKgAAHbCe ALBAAAW F- Fz EBe EDI EEk EC3 EDC ECx Fa EDl ",
  "ECq F1 Fe Fu EEw EC7 FG DSABA- Hz DBto AtpEQDH CA4DH;1740 ALNAAAW F- Fz EBe EDI EEk EC3 EDC EC",
  "x Fa EDl ECq F1 Fe Fu EEw EC7 FG DSABA- Hz;1760 ALxAAAW F- Fz EBe EDI EEk EC3 EDC ECx Fa EDl E",
  "Cq F1;176E ALxAACu EEw EC7;1772 ALxASABA- Hz;1780 ACAAABe EFW EKF EOi ETm EEv EFS EOc EPS EQ4 ",
  "EDC EHS ELL Eb- E59K EC3 EFs EBH EK- EHi EDl EGF ELt EPT EKt EIh EJz ELM EP4 EEp EiQ EC7 FG Fu",
  " ELI CKVAS6IX GhW GYA GtV GX- G6JH Ghv G6JQ Gtq G6N0 GiR G5ul Gbn Gtk GiKcHA2 L7 G6IZ CAStrXl ",
  "GDw EABDw GA- GET GDk Ggv GAz GEs GVg GHE GC1 GMC GA9 GIZ GEP GGs GEl DB570 E6Kw Fvd E53g E6iB",
  " E4UH E6Md FhE E5mj E4NW E6PP6PV FpV E4qX FUT E5nr E4UL FYHYI5qH EPZVd E4VO E6FRts E5pL CPvAM6",
  "Lw CAB4QW GH;17E0 ACAAQDj EA2 F7 EBG FT Fa F5 ECE EB3 ECJ;17F0 ACAAMPZQG6Ym IiS IYI IiT JU JV ",
  "JW JX JY JZ;1800 ABsNm CSD CFq CGUEo CId CBTCR CJINUOU CKhAE4WWR9 CLCFq EGUEo C578 CYSBIYTA2 J",
  "7 IBG CASJw CYSBIYTBT CAQDj EA2 F7 EBG FT Fa F5 ECE EB3 ECJ;1820 ABsAAAW F9 F- F6 Fz EHE EKd E",
  "HR ECx EN4 EDl ECa ELI EDI ECq Fu F7 EEp EC3 EDC EFS EEq EC1 Fe EEw EHW EBe EFW EI7 EGe EPQ E6",
  "xb ER8 Ehi EJu FICsASAB GA9 H- H6 Hz GHE GKd GN4 GDl GCa GLI GDI GCq H3 GDC GFS GEq GI7 GC1 GE",
  "w GBe GYD GPQ G5k8 H7n GN3 EKhA9 H- GgS GKd GAz GN4 GBe GDI GCG Ha GEp GC3 GDC GEq GHW GYD GPQ",
  " GI7 GGe GXi GFS GKs ELCA- GBe GCe GHW GKs EFSADA7CR;1880 ABsAAHKHLGPA2 IHyA2 I450 Itt IFRtt I",
  "tu IBGtu IAW J- IBe IEk Jv IGa IHS IGh IHB IC3 IDC ICa IGF IHh IKs IGe IOh EJIHKHLC3 KKs ELCHK",
  "HLG0 KEk Lv KID KGa KHj KC3 KGt KHh Ktv KKs KGe EHKHLByAz KC1 ELCHKHLHH EHKHL45n ELCHKHLR8;18B",
  "0 AAUAVia EOk Etw EYU E6G8 FEV FID Fep Eib E5qN Etx E59l F5A FsJ E6Yz Ety Fz E6V1 FW9 Fu- Et0 ",
  "EpZ Et1 EOot1 Et2 EOot2 Et3 EOot3 Et4 EOot4 E6Np Gq Gr Gs Gt Ery EOoD8 HG HJ H2 GCz Hc GBn GTz",
  " EbBEN EQCEN EA3ACCi GIRBA EtO6No EDuVe GX9 E6gH Ehn E6jF GD Eic E6g5 G3 EMKTy GiD GYP EBj5L1 ",
  "GidYE GYD GsF EMK5l0 EBjsE EieidBz Jm EBjfhBn;1900 AFM6puAA CAABe EFW EDI EG0 EEk Fv EFS EEq E",
  "ID Et5 EC3 EFs EDC EGt ECx Fa EGF EDl EHH ECq F1 Fe Fu EEw Fp EHh EC7 FG E5L5 Eif;1920 AFMASAB",
  "AW H- Hz GHR GEP GGs GEl GA9 H6 CEAAAC1 He GEw;1930 AFMACAABe GEk GGP GC3 Hx Ha Hq He Hu DB53K",
  " FnS E6Oz;1940 AFMABVe;1944 AFMJsAu DCAu CAQDj EA2 F7 EBG FT Fa F5 ECE EB3 ECJ AA5GkAABe GNA G",
  "Ek GI7 GC7 H1 H3 GFs GCu Ha GGF GCq GHW GGG GCG GLI GFW GM+ GCx GAW H- GHR GP3 GAz GGs GA6 GKd",
  " GA9 Gt6 GEP;1970 AA5GkAAQD H8 GTo GQE GbC;1980 AD4A5EBAACPLI JKLI JPBe KNA KEk JKBe KNA KEk J",
  "PI7 KC7 L1 JKI7 KC7 L1 JPC3 KFs KCx JKC3 KFs KCx JPCa KGF KCq JKCa KGF KCq JPHW KGG KCu JKHW K",
  "GG KCu JPCG KDC Ll JKCG KDC Ll JPt7 L8 JKt7 L8 JPgu JKgu;19B0 AD4A5EBASABAS6We KDw KET KAz KEs",
  " KA9 KIZ KA6 KYV KKd KOk Ktw L9 Kia Kt+ K6lc KgS HAA3DM KLJ KCc Lz KDJ LU KBD GCLYW JX;19D0 AD",
  "4A5EBAQDj IA2 J7 IBG JT Ja J5 ICE IB3 ICJ GCHAQA2;19DE AD4A5EBABt- I5rC ACAAM6EQ EiSND EYIND E",
  "iTND FUND FVND FWND FXND FYND FZND FgND EuAND FBND FCND FDND FEND E6jp EiSNE EYINE EiTNE FUNE ",
  "FVNE FWNE FXNE FYNE FZNE FgNE EuANE FBNE FCNE FDNE FENE AI+AABe EDI EEk EuF ECa EDl ECq EuG EC",
  "3 EDC ECx Eih EEv Fq EFV E5-V EC1 Fe Fu EGG EC7 EAW ECG DSABA- Hz H9 H6 GIZ;1A1E AI+6DX CIrBPH",
  "s AA5CHAACPBe IFW Ihg HKBe Ihg IFW GEk GCPEv IFS HKEv IC7 IFS GFV G6Kj GCPii GDC GCKii GuH GCP",
  "C3 IFs HKC3 IFs Hx GDl GCPCa IGF IHW HKCa IHW IGF Hq HKC1 HPC1 He G6NR GCu GEB Hw GCPEp IHh IC",
  "7 JG GJg GAW GCKCG GA- GET GAz GEs GHR GGs Gt- GVPC7 EDzABDRCe Lu ICu6eUcI EABKucJcI EDzABA3Ek",
  " ICKCa JPiiDeCKCa Jq IDl IC7;1A60 AA5CHAB6PB FSABAW IKuij IDw IVODw IA- IET IKd IgX IAz IEs IA",
  "6 IYVA+ Iia IA9 IIZ IGs IEP ICHEP IYVAq FBKucJ GX3 GQD GikQ8 ITo IQE GCe5MW GKuil G5n55mu;1A7F",
  " AA5CHAiRHBA EQHAQDj IA2 J7 IBG JT Ja J5 ICE IB3 ICJ;1A90 AA5CHCHAQDj IA2 J7 IBG JT Ja J5 ICE ",
  "IB3 ICJ;1AA0 AA5CHAB6rg Ih HPk G5nU HQ0 G48t GD7FbuH GKu6t5 G5mW IX G6Pd Ie G5Mw G4X5;1AB0 AAi",
  "XoEOFH C47n CVh CC6Ae CFxBA C6sYA+ CViE-A+ CC0AuA+ CA4C0AuA+ CB-cKBMA+ CuIcKBMA+ CcLAq CA4cLAq",
  " CcLA+ EKa CAHACAAENA+ ICjENA+ DrG4AqAr DoG4AqAo DrG4A+Ar DoG4A+Ao Dv4WfAq DgABAq CFRA4ovAq CB",
  "kABAq CA4BkABAq J+ CFxDiFH CAHACAALODE KBm KDG;1B00 ACbABcM6Lu GM7 E4Y8 EuJ E4Vr DAuK GOp FL G",
  "Op FM GOp ECeVj IOp FucN IOp E5C4 E4NZ EuN GOp EBe GSV EDI G5LD EEk Fv G5q9 Fq G5kz EFV EC35sC",
  " GOqSV EDCOq4N3 ISV ECx6Kc F3 G6el EDC G5yO ECx Fa G5mq EDl G5nR ECq F1 Fe Fu EEw EC76O3 HPY G",
  " FG DB6LS DSABOp GcM IuO HO I5jj GCeVj KOp HucN KOp GYY IVj IOp IVjOp Gim IOp CYZYZ CAAGfSW E5",
  "n0SW E6kNSW EP0SW EMDSW EcPSW E4P5SW EHbuP;1B50 ACbAQDj EA2 F7 EBG FT Fa F5 ECE EB3 ECJ CuQ DR",
  " DS Cin6Df FXW FD9 C6Db CAmAMuT G468 GuU GcQ IuJ G48C H5l H7L H5v GcQ5JQ GAi6e9 I5DN IuV JW Ii",
  "o IuVADio JWADio I4VI I5K- GcRC0IW KJi IHFuX K6eL GYaC06Dl LHu IHF6GG MQ IC0ip CuQuY DRuY;1B80",
  " AE2AB6Dz Gp Gs DAAW F- Fz EIZ EA6 F9 EQ7 EBe ELI EDI EEk Fv Fq EGe EFV EC3 EDC ECx Fa EHW EGG",
  " EDl ECq F1 Fe Fu EEw EC7 ENA ECG CDzAB6Dd Ix I0 CASAB6Dm I1 Ig It Ic Ik DB6Da EHX CDzABuZCq I",
  "Ew CAAFW E6cC DQDj EA2 F7 EBG FT Fa F5 ECE EB3 ECJ CMg CAA6Lc Eua EHH EA3DJ GCz AGAAAAW EPaAW ",
  "ECG EPaCG EiqCG EDl EirDl ECa EPaCa ECx EiqCx EEw EPaEw EubEw EDI EPaDI EEq EDC ECe EPaCe ECq ",
  "EPaCq EucC3 FdC3 EC7 EPaC7 EiqC7 EC1 EPaC1 EEk ECu EPaCu EFV EEv EVk EYb EA- Fz DB6hK DSABA9 G",
  "ubA9 GHR GA- GirA- GA6 GirA6 GAz IAsPaC7 CDzABLJ GDV Cue C6Du;1BFC AGAAMN-Cx50N G6Fz G5ll Gue ",
  "AEtAABe E5ot EFW EDI E5Kv EEk Fv EFS EEq EFV EC3 EFs EDC ECx Fa Ea4 EGF EHW E5Gf EDl E4V2 ECq ",
  "Euf EI7 EM+ EN3 EC1 Fe Fu FG Eug EGG EC7 EEp Fw EAW CEAAAC1 He CASABDw GA- H6 GGs GAz GEs GA9 ",
  "CDzABDJ GCz GBz GCc GD8 GBm GDG G5-e GcJ CAB6Kd EKE;1C3B AEtDHuh Eis6gNuh Eui Fjui G CAQDj EA2",
  " F7 EBG FT Fa F5 ECE EB3 ECJ;1C4D AEtAAGa EHS EGh AGmGvAQDj GA2 H7 GBG HT Ha H5 GCE GB3 GCJ FA",
  "Cu GJc Gax GN4 GMH GX9 G4LK IJ IL IQ GFX GVf Git G5kM GYc GJ0 GcS GJW Guk Gt9 GGk GcT G5Co GF+",
  " GcU GLM G6Cn HBn Gul GXM EHc6jO E5Iuum F3Bum E6LE FFH E4NR EDHun GA4un AAtACAAM3MD G5t6Kp GVl",
  "A6 GOrPI GVOH2 G6f9H2 GVOP1AB IQx G6ltU2;1C90 ABqG8AFAAH4 IbE ITp IbF IF+ IbG IXk IbH IFg IVM ",
  "IbI IKx IX4 IFL IbJ JK IVR IU0 ITq IQ9 IbL JM JN IX5 IIa IbO INg IX6 IbP JQ JR JS JT IHV IX7 I",
  "Jv IVS IbU IPR IVT IrG ICjTp IHA;1CBD ABqG8AFAAVU IP1AB IrHAB AE2DHN-6bx HDq HH3 Guo HacV GBec",
  "V GDCcV HlcV;1CD0 AGuCL5mz E6Vw FHF CAB57y EYdupQI CCLYd4NOKVQI GKVQI GiuKVQI EM7A+ EYdiuKVQI6",
  "Pv EA4QI EFxQI EiuXq EBAA+ EA7CRA+ EBGCRA+ E6MEpdKVQI E4P8KVQI CABHyQI Gaz ED7Hyaz EHyXq ED7Hy",
  "Xq EHyazADFr GXqADFr EGPuq G4T7 Gur IADFr E6gv E5NjCsGP ECsGP E6NICsGP EGP6lQ53I Eus EFbus CCL",
  "M7Aq CABVI FJ E4P+ CCLCiAq EA4CiAq CABA4GPuq;1D00 AAHAAACAFAW IIZ DCAACjIZ DAACAFPxBD ID2 JU I",
  "Ru IA9 DCAACjC0A9 IA- DAACAFEW IDJ IBzADBM ICz ID7Cc IA6 IC0A6 DCAALdA6 IC0A6 IA6ADBM GCjHE DA",
  "ACAFRx DCAAGzByA6 GH5ByA6 DAACAFD8 J7Bm ICjBm IDG IAz DCAALdAz I47oAz ICjCz DAACAFDM IEN IDd I",
  "OX EPy5r-6ZF EHA BkAAACAFKm INV IGW IJU IMB BtAAACAFKb ABCAAAFAW GIZ GBD GPxBD GDU GA9 GD7A9 H",
  "E HV GA- GEW GDJ GBz GCz Hc GD7Cc GA6 GRx GD8 GBm GDG GAz GEN FCAW GCjAW GE0 GCjIZ GBD GDU GA9",
  " GPE GC0A9 HjC0A9 GDE GCjA- GDJ GCz GOW GA6 GC0A6 GGzByA6 GH5ByA6 GD8 HG GAz GLdAz GCjCz GDM G",
  "HA GLY GAkKm GLG GAkKB GJu AAHHgACAAA- IBm IAz IDM BkHgACAALY IKm IJU IKB IJu BHACAAKd GBDADBR",
  "C5 GDUADBRC5 GEzADBRC5 GCzADBRC5 HcADBRC5 GD8ADBRC5 GBmADBRC5 KRyAaBRC5 HnADBRC5 GDGADBRC5 HdA",
  "DBRC5 GCjDE ABCAAAtF+ AAHACAALODE GSSAD6aw FFAAA-ADBM FAGKADBM GD8ADBM FFAAAzADBM FAGrADBM GBD",
  "ADJEBX GDUADJEBX GEzADJEBX GDEADJEBX HJADJEBX GBzADJEBX GCzADJEBX HcADJEBX GD8ADJEBX GBmADJEBX",
  " HnADJEBX GLWADJEBX GDMADJEBX H9ADJEBX HdADJEBX GAWADHOBX GE0ADHOBX GDUADBXAaFr GA9ADHOBX GC0A",
  "9ADHOBX GD7C0A9ADHOBX GPEADHOBX GA-ADHOBX GC0A6ADHOBX GLWADHOBX GAzADHOBX GOXADHOBX ABCAAACCjE",
  "0 GD2 IADKn GRu GD7C0A9 GEz GK7EWADBM GAbDE GCjDV GA-ADBM GGK GAFA- KADBM GEWADQu GBzADHOBX KJ",
  "EBX GAFBz GCzADBX HjCzADCsLH HcADArBX KHOBX GAFCc GPxA6 GKB GBnADBX GLW GDGADJEBX GAzB7 GGr GA",
  "FAz GDMADBX GCjDM GDd IADHOBX KKn GOX GKD AAiHPFAFH EDiFH CcWA+ CivAu C5yL DLV DyN C4Mw C5LU C",
  "4Mv CAHACAABmA+ C4Wn C5yM CA4EOAq CMyAq COaA+ CVfA+ CRGAq CcXAq CAHACAAYeC0AWAq IIZ IcY IVm ID",
  "2JD ILODU IRu IDE FAACAFDE FCAADJ IBz FAACAFBz KCz FCAACc FAACAFCc KBm FCAABmYf Jn ICsBn IDd I",
  "E0 IBD ILY IPE IEz IBzADA4BRC5 IA6ADB-cKBM ID8 ILW IAzADB-cKBM IEN IAWADEi J6ADEi JzADEi CBlII",
  "Aq CRIAqAo Hr CBAAqAr COrFRUsA+ CBAA+Ar C460Au CA4FRF4A+ CMXCmBHA+ CArEjAq DoEjAaB4EjA+ BHAFAA",
  "AWADCiA+ DCAAAWADCiA+ DFAABDADBAAq DCAABDADBAAq DFAABDADBAA+ DCAABDADBAA+ DFAABDADE-A+ DCAABDA",
  "DE-A+ DFAAD2ADJDAaDi DCAAD2ADJDAaDi DFAADUADBAAq DCAADUADBAAq DFAADUADBAA+ DCAADUADBAA+ DFAADU",
  "ADE-A+ DCAADUADE-A+ DFAADUADJD DCAADUADJD DFAADUADEOA+ DCAADUADEOA+ DFAAA9ADFIAaFA DCAAA9ADFIA",
  "aFA DFAAA9ADFIAaDi DCAAA9ADFIAaDi DFAAA9ADEOA+ DCAAA9ADEOA+ DFAAA9ADC5A+ DCAAA9ADC5A+ DFAAA9AD",
  "JDAaF4 DCAAA9ADJDAaF4 DFAAEzADBAAq DCAAEzADBAAq DFAADEADFI DCAADEADFI DFAADVADBAAq DCAADVADBAA",
  "q DFAADVADBAA+ DCAADVADBAA+ DFAADVADEi DCAADVADEi DFAADVADJD DCAADVADJD DFAADVADF4A+ DCAADVADF",
  "4A+ DFAAA-ADC5A+ DCAAA-ADC5A+ DFAAA-ADEiAaDi DCAAA-ADEiAaDi DFAADJADDi DCAADJADDi DFAADJADBAA+",
  " DCAADJADBAA+ DFAADJADE-A+ DCAADJADE-A+ DFAABzADBAA+ DCAABzADBAA+ DFAABzADBAA+AaFI DCAABzADBAA",
  "+AaFI DFAABzADE-A+ DCAABzADE-A+ DFAABzADEOA+ DCAABzADEOA+ DFAACzADDi DCAACzADDi DFAACzADBAAq D",
  "CAACzADBAAq DFAACzADBAA+ DCAACzADBAA+ DFAACcADBAAq DCAACcADBAAq DFAACcADBAA+ DCAACcADBAA+ DFAA",
  "CcADE-A+ DCAACcADE-A+ DFAACcADEOA+ DCAACcADEOA+ DFAAA6ADC5AaDi DCAAA6ADC5AaDi DFAAA6ADC5AaEi D",
  "CAAA6ADC5AaEi DFAAA6ADFIAaFA DCAAA6ADFIAaFA DFAAA6ADFIAaDi DCAAA6ADFIAaDi DFAAD8ADDi DCAAD8ADD",
  "i DFAAD8ADBAAq DCAAD8ADBAAq DFAABmADBAAq DCAABmADBAAq DFAABmADBAA+ DCAABmADBAA+ DFAABmADBAA+Aa",
  "FI DCAABmADBAA+AaFI DFAABmADE-A+ DCAABmADE-A+ DFAABnADBAAq DCAABnADBAAq DFAABnADBAA+ DCAABnADB",
  "AA+ DFAABnADDiAaBAAq DCAABnADDiAaBAAq DFAABnADG+AaBAAq DCAABnADG+AaBAAq DFAABnADBAA+AaBAAq DCA",
  "ABnADBAA+AaBAAq DFAADGADBAAq DCAADGADBAAq DFAADGADBAA+ DCAADGADBAA+ DFAADGADE-A+ DCAADGADE-A+ ",
  "DFAADGADEOA+ DCAADGADEOA+ DFAAAzADEiA+ DCAAAzADEiA+ DFAAAzADC5A+ DCAAAzADC5A+ DFAAAzADEOA+ DCA",
  "AAzADEOA+ DFAAAzADC5AaDi DCAAAzADC5AaDi DFAAAzADFIAaEi DCAAAzADFIAaEi DFAADMADC5 DCAADMADC5 DF",
  "AADMADBAA+ DCAADMADBAA+ DFAAENADFA DCAAENADFA DFAAENADDi DCAAENADDi DFAAENADEi DCAAENADEi DFAA",
  "ENADBAAq DCAAENADBAAq DFAAENADBAA+ DCAAENADBAA+ DFAAD9ADBAAq DCAAD9ADBAAq DFAAD9ADEi DCAAD9ADE",
  "i DFAADkADBAAq DCAADkADBAAq DFAADdADEO DCAADdADEO DFAADdADBAA+ DCAADdADBAA+ DFAADdADE-A+ DCAAD",
  "dADE-A+ HVADE-A+ HGADEi GENADCiAq GDkADCiAq GAWADAoByCi GCsBnADBAAq MC+BM NPBM DFAATWBn DCAALG",
  " DFAAAWADBAA+ DCAAAWADBAA+ DFAAAWADBXAq DCAAAWADBXAq DFAAAWADEOAaDi DCAAAWADEOAaDi DFAAAWADEOA",
  "aFA DCAAAWADEOAaFA DFAAAWADEOAaBXAq DCAAAWADEOAaBXAq DFAAAWADEOAaC5 DCAAAWADEOAaC5 DFAAAWADEOA",
  "aBAA+ DCAAAWADEOAaBAA+ DFAAAWADF4AaDi DCAAAWADF4AaDi DFAAAWADF4AaFA DCAAAWADF4AaFA DFAAAWADF4A",
  "aBXAq DCAAAWADF4AaBXAq DFAAAWADF4AaC5 DCAAAWADF4AaC5 DFAAAWADF4AaBAA+ DCAAAWADF4AaBAA+ DFAAA9A",
  "DBAA+ DCAAA9ADBAA+ DFAAA9ADBXAq DCAAA9ADBXAq DFAAA9ADC5 DCAAA9ADC5 DFAAA9ADEOAaDi DCAAA9ADEOAa",
  "Di DFAAA9ADEOAaFA DCAAA9ADEOAaFA DFAAA9ADEOAaBXAq DCAAA9ADEOAaBXAq DFAAA9ADEOAaC5 DCAAA9ADEOAa",
  "C5 DFAAA9ADEOAaBAA+ DCAAA9ADEOAaBAA+ DFAAA-ADBXAq DCAAA-ADBXAq DFAAA-ADBAA+ DCAAA-ADBAA+ DFAAA",
  "6ADBAA+ DCAAA6ADBAA+ DFAAA6ADBXAq DCAAA6ADBXAq DFAAA6ADEOAaDi DCAAA6ADEOAaDi DFAAA6ADEOAaFA DC",
  "AAA6ADEOAaFA DFAAA6ADEOAaBXAq DCAAA6ADEOAaBXAq DFAAA6ADEOAaC5 DCAAA6ADEOAaC5 DFAAA6ADEOAaBAA+ ",
  "DCAAA6ADEOAaBAA+ DFAAA6ADIQAaDi DCAAA6ADIQAaDi DFAAA6ADIQAaFA DCAAA6ADIQAaFA DFAAA6ADIQAaBXAq ",
  "DCAAA6ADIQAaBXAq DFAAA6ADIQAaC5 DCAAA6ADIQAaC5 DFAAA6ADIQAaBAA+ DCAAA6ADIQAaBAA+ DFAAAzADBAA+ ",
  "DCAAAzADBAA+ DFAAAzADBXAq DCAAAzADBXAq DFAAAzADIQAaDi DCAAAzADIQAaDi DFAAAzADIQAaFA DCAAAzADIQ",
  "AaFA DFAAAzADIQAaBXAq DCAAAzADIQAaBXAq DFAAAzADIQAaC5 DCAAAzADIQAaC5 DFAAAzADIQAaBAA+ DCAAAzAD",
  "IQAaBAA+ DFAADkADFA DCAADkADFA DFAADkADBAA+ DCAADkADBAA+ DFAADkADBXAq DCAADkADBXAq DFAADkADC5 ",
  "DCAADkADC5 DFAAcZIK DCAAcZIK DFAAcZDM DCAAcZDM DFAADkADJd DCAADkADJd BkACAAE0ADEX LF LXAaFm LF",
  "AaFm LXAaFn LFAaFn LXAaGx LFAaGx DFAAE0ADEX LF LXAaFm LFAaFm LXAaFn LFAaFn LXAaGx LFAaGx DCAAH",
  "vADEX LF LXAaFm LFAaFm LXAaFn LFAaFn;1F18 AAkAFAAHvADEX LF LXAaFm LFAaFm LXAaFn LFAaFn;1F20 AA",
  "kACAAF9ADEX LF LXAaFm LFAaFm LXAaFn LFAaFn LXAaGx LFAaGx DFAAF9ADEX LF LXAaFm LFAaFm LXAaFn LF",
  "AaFn LXAaGx LFAaGx DCAAGKADEX LF LXAaFm LFAaFm LXAaFn LFAaFn LXAaGx LFAaGx DFAAGKADEX LF LXAaF",
  "m LFAaFm LXAaFn LFAaFn LXAaGx LFAaGx DCAAI5ADEX LF LXAaFm LFAaFm LXAaFn LFAaFn;1F48 AAkAFAAI5A",
  "DEX LF LXAaFm LFAaFm LXAaFn LFAaFn;1F50 AAkACAAGrADEX LF LXAaFm LFAaFm LXAaFn LFAaFn LXAaGx LF",
  "AaGx;1F59 AAkAFAAGrADEF;1F5B AAkAFAAGrADEFAaFm;1F5D AAkAFAAGrADEFAaFn;1F5F AAkAFAAGrADEFAaGx D",
  "CAAEuADEX LF LXAaFm LFAaFm LXAaFn LFAaFn LXAaGx LFAaGx DFAAEuADEX LF LXAaFm LFAaFm LXAaFn LFAa",
  "Fn LXAaGx LFAaGx DCAAE0ADFm Ln GHvADFm Ln GF9ADFm Ln GGKADFm Ln GI5ADFm Ln GGrADFm Ln GEuADFm ",
  "Ln;1F80 AAkACAAE0ADEXAaHu LFAaHu LXAaFmAaHu LFAaFmAaHu LXAaFnAaHu LFAaFnAaHu LXAaGxAaHu LFAaGx",
  "AaHu DFAAE0ADEXAaJX LFAaJX LXAaFmAaJX LFAaFmAaJX LXAaFnAaJX LFAaFnAaJX LXAaGxAaJX LFAaGxAaJX D",
  "CAAF9ADEXAaHu LFAaHu LXAaFmAaHu LFAaFmAaHu LXAaFnAaHu LFAaFnAaHu LXAaGxAaHu LFAaGxAaHu DFAAF9A",
  "DEXAaJX LFAaJX LXAaFmAaJX LFAaFmAaJX LXAaFnAaJX LFAaFnAaJX LXAaGxAaJX LFAaGxAaJX DCAAEuADEXAaH",
  "u LFAaHu LXAaFmAaHu LFAaFmAaHu LXAaFnAaHu LFAaFnAaHu LXAaGxAaHu LFAaGxAaHu DFAAEuADEXAaJX LFAa",
  "JX LXAaFmAaJX LFAaFmAaJX LXAaFnAaJX LFAaFnAaJX LXAaGxAaJX LFAaGxAaJX DCAAE0ADVn KFI LmAaHu KHu",
  " KFnAaHu;1FB6 AAkACAAE0ADGx MAaHu DFAAE0ADVn KFI Lm Ln KJX Cfl CJX CEX CGx CMAAaGx CACAAF9ADFm",
  "AaHu KHu KFnAaHu;1FC6 AAkACAAF9ADGx MAaHu DFAAHvADFm Ln GF9ADFm Ln KJX CEXAaFm Hn GGx CACAAGKA",
  "DVn KFI KMAAaFm Pn;1FD6 AAkACAAGKADGx KMAAaGx DFAAGKADVn KFI Lm Ln;1FDD AAkEFAaFm Hn GGx CACAA",
  "GrADVn KFI KMAAaFm Pn GJUADEX LF GGrADGx KMAAaGx DFAAGrADVn KFI Lm Ln GJUADEF CMAAaFm Hn CFm;1",
  "FF2 AAkACAAEuADFmAaHu KHu KFnAaHu;1FF6 AAkACAAEuADGx MAaHu DFAAI5ADFm Ln GEuADFm Ln KJX CFn CE",
  "F;2000 AF+KI ALsKI AF+Kl ALsKl A6f-Kl A5HMKl A6XvKl ASXKl ADHKl AayKl AT2Kl ADjPbKl E59X ETY A",
  "YgAu AcaAu AOU A59WOU ASXHY AF+HY ALsHY ACvB7 AA4BYE- CCKE- BrEQI4Au BoEQI4Au AEQutI4Au DuI4Au",
  " AArA4I4Au BoA4I4Au B4utI4Au DuI4Au AT3 AA4T3 ANn AKoNn AA2BAiw B7BAiw ACvSD AuvJf AE-Jw AXhJw",
  " AYguw Acauw Aixux5HG AYguy Acauy AVlfgKl AXOpaAB CEGCtAB AOY AA4OY AFxOY AD7OY CA4OY CFxOY AQ",
  "A AEQLFFfI4Au CKOFfI4Au A6K6Au AA4JsAu AYh AR1 Auz ADfVo AQAiyJf A4P1 AOUNn ADPMk AArAvCFADcb ",
  "BoAvCFADcb B4JCAu AJCJsAu BsJCAu Au0ABN0 AD7odAB AA8BxNn DfNn ACKG5 AD7OT AizBl AA74P04NwSB AX",
  "EK8AB A6b-HY AFRuz AYiDHAu ABGBADH APcOY ABTBADH BaBADH AA7BADH ABTBAAu AHPGV Au1 ABYBTCR AC8A",
  "NKl AKcTY Au24O2 Ai0AY CJw CBk;2066 AYgcc Acacc ARJuIcc Aixuxcc Au3u4u5 B6u4u5 B3AIARu7 B6AIAR",
  "u7 B8AQu9 A59TAQu9 AJTDj CAHACAAA-;2074 AJTBT Da D5 CCE CB3 CCJ CBkAB CK8 CH-AB CArG4 DoG4 DHA",
  "CAACc AHgDj CA2 D7 CBG DT Da D5 CCE CB3 CCJ CBkAB CK8 CH-AB CArG4 DoG4;2090 AAHHgACAAAW J9 J6 ",
  "ID9 IPE IDV JJ IBz ICz Jc ID8 IBn IDG;20A0 A5D8AB AIdAB A43nAB Au+5HSAB B-AB A51kAB B4tAB A6E7",
  "AB ASCAB Ai1AB AD46V8AB AuTAB AvAAB BBAB A6jYAB Ai2AB A5Jf6ErAB AvCAB A5LeAB A4QQAB A5Q3AB A4Y",
  "9AB A5td6hiAB A6ZAAB BfHAB A5j5SCAB A6jku-AB A59cAuAB BysAB A6NQAB A5r+AB A4VwAB AvDAB;20D0 AA",
  "iArFcAq DoFcAq CCsBYE-Ka CE1BYE-Ka CLDAeAq CMlAeAq CArAeAq DoAeAq CCiKa CMlCiKa CLDCiKa CBGCRA",
  "q DTCRAq CT4B8 EAv EG1 EB8T5 CArAoAeAq CT4Yj EvE FFEdCw CK6KNKa CA4BYBMKa C4OcAM CFx6lw COrUsA",
  "q CBxAeKa CCsA4KNKa CBfFcADC9C6 DxFcADC9C6 CArAeA+ DoAeA+ CG5Aq;2100 AvGBP A4M0BHHI6bQ ADWAFD2",
  " AaP4ZC AFUE-AM A4YYBP BX+6lp A5D7i3 A6P3 AaP5Fi AAbACDE DFDV AYkAFDV ADWAFDV AvHi3 ECWA7GW AA",
  "bAFA- AYkAFA- AAbAFBz DCBz ABzBDB7AM ADWAFCc A5-EAB AML6K3oa AAbAFD8 ADWAFD8 EFw AAbAFBm AYkAF",
  "Bm ADWAFBm A6HG6eM AvI A6UYAu AOsAB A6hpAuAB BoE ADWAFDd AvJAB AcdAB AFRcdAB AYkAFDd ACjAkACAA",
  "GK A5nQAB A4OPAB AAbAFBD AYkAFD2 A5DvAM AAbACA9 DFA9 EEz ACjAFEz AAbAFCz DCA6 AB6AM AU6AM AMbA",
  "M AalAM Ai4i5 AFbAFFw A5FgAB ADWACGW EKm DFKm EGW CMMYl ACjA0AFDE GBz AD7A0AFBz ACjA0AFDk ADWA",
  "wAFDU FCDU GA9 H- GEW A6HYE- ACjRt AXOAB A4Ni ACjACEz AAMAsFli5 ALVDPA26Uf G575 Gge GOA F7RK F",
  "2gf F7i6 EBGi6 FTi6 EA2i7 EBavK EA2Hz EBGNF FaNF ECENF ADPVDA2 AGXEcA2 F7 EBG FT Fa F5 ECE EB3",
  " ECJ EEG EOt ENG EIN EA2CM EBaCM EA2Ct AACGXEcA2 H7 GBG HT Ha H5 GCE GB3 GCJ GEG GOt GNG GIN G",
  "A2CM GBaCM GA2Ct AGXEcA2CtD2DU EBaCt EEGCt ED7A2CM AAHACAAD7D2 AGXEcB55sBAR EIN5CjAR GCt EA2CM",
  "Ct ALVDPDjRK ACjAQA7 EBG;2190 ABxAe AC-Ae ABfAe AC6Ae AArAoAe ABlB4Ae ADAGHAe CFhAe B0FhAe CGH",
  "Ae ABxAeADBM BfAeADBM BxIbAe BfIbAe BxA7ceAe AC-A7ceAe ABfA7ceAe AC6A7ceAe ABxAeADFr BfAeADFr ",
  "BxAeIEB7 AC-AeIEB7 ABfAeIEB7 AC6AeIEB7 ABlB4AeADcf BxAeADBX BfAeADBX BxAeADJd BfAeADJd AArAoIb",
  "Ae EAeADBM AC6OaAe B-AeADLEBx Jf B6AeADLEBx Jf ABfAeADH7C6 AC6AeADH7Bx ALDGzYmAe AMlGzYmAe ADA",
  "GHAeBHCsB7 ABxAeBHB7CWBfAeBHB7 ALDC0B8Ae AMlC0B8Ae ABxFcADC9C- J6 AC-FcADC9Bf Jx ABfFcADC9C- J",
  "6 AC6FcADC9Bf Jx ABfAeCWBxAe AC-AeBxBPC6Ae ABxAeCWBfAe CSYMN AC-SYMN ABfSYMN AC6SYMN ABxFcCWBf",
  "Fc BfFcCWBxFc BxA4AeADBM AArAoA4AeADBM ABfA4AeADBM BxA4Ae AC-A4Ae ABfA4Ae AC6A4Ae AArAoA4Ae AB",
  "lB4A4Ae ADAGHA4Ae CFhA4Ae B0FhA4Ae CGHA4Ae ABxFxAe BfFxAe BxcgAe BfcgAe AC-AeADA4BM B6AeADA4BM",
  " ABxOBAe AC-OBAe ABfOBAe AC6OBAe ABxAeBHB7 BfAeBHB7 BxBEAe AC-BEAe ABfBEAe AC6BEAe B-BEAeIEB7 ",
  "GFLch KADCvB7 MBYB7 F4Ae IFLch ABfBEAeIELy ADAGHAeBHH7 B0FhAeBHH7 ABlB4BEAe AAoAeADACB8 AC6AeB",
  "xBPC-Ae ABGBfMN BxAeADBYBM BfAeADBYBM AArAoAeADBYBM ABxAeADA4BYBM BfAeADA4BYBM AArAoAeADA4BYBM",
  " ABxi8Ae Bfi8Ae AArAoi8Ae BsYn A4qm AVpVq AvL5EJ COuFT5EI AM4RL A5j4 AVr AOCBP AFTH4OCBP AACOC",
  "BP ARMNdci AOuFTi9Ndci AACRMNdci AIrBP6HX AMMOD CvM CYl AK8AB A51rAB ABABk ARwMk BLK8 AG5G2 AC",
  "iG2 ANnG2 AAvXN Af-XN AaoXN A6HZBH AVh AAoFf AFf AOvFf Ai+Ff A48Y AOuFTi- AQJBH AFTQJBH AJJAa ",
  "CDe ALz BP AKJ AA4KJ AFxKJ AjAKJ BBKJ A6pmKJ AMlKJ CjAKJ ALDjAKJ A6fm A4U8 A6Kk AvN ABAK8 A5ED",
  " BJdvN Aow AC5G2 AD7C5 AFRjCBn A6XbIb BsGOD AFTC5 AK8C5 AvOCmBH AFTvOCmBH AVsCmBH CQKFTvPCmBH ",
  "ARNVsNivPCmBH AMXCmBH AFTMXCmBH AMXCmDeCmBH AFxC5 AYnCmBH ANHBH AvQNHBH A47xJ2 BO4HI5tK AvQCmB",
  "H AVsCmBHDeHIROBP AROBPDeVsCmBH AIdH- AH-Id ACiFgCmBH CCmBH A43NBH A5Dw ChBH AFyH- ALGCmBH ACm",
  "BHOV46w AOvOV A6I-CmBH AFTCmBH AcjBH AFTcjBH A6auNHBH AFuDeCmBH BvDeCmBH BuCWCmBH BvCWCmBH BuQ",
  "KFTCmBH BvQKFTCmBH AYoFu Dv AJ2 AFTNHBH CFu Dv ARNFuNiCmBH DvNiCmBH AFuDeNHBH BvDeNHBH ARNFuNi",
  "NHBH DvNiNHBH AFuDeFv BvDeFu ARNFuNiFv DvNiFu AOE BF BEDeCmBH BFDeCmBH BEDeNHBH BFDeNHBH BuFTv",
  "R FS AJ3BP B4BP AFTAWJ3BP F4BP AJ3BPDeCmBH B4BPDeCmBH ARNAWJ3BPNiCmBH F4BPNiCmBH AJ3BPADFTCmBH",
  " B4BPADFTCmBH AjD CNx CLP AAvROBP CYpBP CROBPDeCmBH CYpBPDeCmBH Cck CYq ByBk CK8 CAY CRwMk CBA",
  "G2 CCiG2 CG5G2 CH- DY ABoBk CK8 CAY CBAG2 AAoII BrII AB4II BlII A4Py A52A AjE A5HE AFxBYB7AoSZ",
  " AA4BYB7A4AoSZ AOuFT6Hd AFTjE AOuFT5HD AvTA4BYB7A4AoSZ AOEQLcl BFQLcl AQMSaBP ARMNdQMSa AQMSaB",
  "PDeCmBH ARMNdQMSaDeCmBH AYpBP AROBP AjF A5Ng42y5zS BkG A6s6 A54y ANi AAoFfADLQ CCw AMMJJAa EDe",
  " CLz DP AG1G2 ABAG2 AFyG2 ARwAY Acm AArQMjGYrOD BoQMjGYrOD BrYrOD BoYrOD AD7C5H- AIAJJDe EAa A",
  "A4J3 D4 CLz DP AvU ACmAaQJBH AFuADBA BvADBA AItYoFu Fv AFuCmBHDeFv BvCmBHDeFu ACmBHDeFu Hv GOE",
  " HF AOuFTvRDeCm FSDeCm AFTAvROBPDeCmBH EYpBPDeCmBH AAvROBPDeFTCmBH CYpBPDeFTCmBH AFuQKFTNHBH B",
  "vQKFTNHBH AOEQKFTNHBH BFQKFTNHBH AFTQMSaBP AOuFTi9NdQMSa AFTQMSaBPDeCmBH AOuFTi9NdQMSaDeCm ABY",
  "SD AupCvSD ABlAoC+SD B4AoC+SD AOCBPADCsCvBM GBYB7JcIrBPCvBM AACOCBPADBYB7JcIrBPCvBM AOCBPADBAA",
  "q GOG AACOCBPADOG AOCBPADKK GA7Cvh2 ARMADCsCvBM EBYB7JcIrBPCvBM AACRMADBYB7JcIrBPCvBM ARMADOG ",
  "AACRMADOG ADdEYcn5z- A47pAB AcoAe AVt ABlEj B4Ej A6HV BE4 APNE- AArMO BoMO BrL0 BoL0 AH5Aocp D",
  "rcp AGzAocp Drcp AD7FTAB AAvOH ALQ AjH A6QD AOs6K2 AVuIY A6pIAv ATfBP5kHAB ACjFTAB AvV Acq AGz",
  "ArH7 DoH7 AH5ArH7 DoH7 AGzByKJ AH5ByKJ Acr AYs ABlEjJ2A7CvYt A6CaRP AvWBHHIAo AD9FgAWRQBp AYu ",
  "ALFFfCF AKOFfCF AvWBHHIAr BXCi A43+ AYn4PV A6cy AvY6Nb A4766Ce B2x6eZ A6YJ A43Q CR AFBFCAM5R6 ",
  "G6ZYKI GKICm Ii- IG1 ISb IB8 GB8Vv ISb GMkB7 GT5B7 GKIMk IT5 IFu Jv GBxcs Hfcs GKIBxAe JfAe GB",
  "8T5 H4IIKK GLGVv GKIB4QA ILG GB4IISb GC-cs GKIC-Ae GBlIIOG GctVv GKIBlQA Ict GBlIISb GC6cs GKI",
  "C6Ae GvZKK GLGKK GG1KK GSbKK GB8KK HlT6Sb GvZKI GB8Fy GKIId GBlIIEi GctEi GFyEi GSbEi GB8Ei H4",
  "T6Vv GArT6Vv GC5Ei GFvEi HqB7 GctC5 G6xO GVvC5 GOTKK GKIFTCm IJC GB4QAC5 HlQAC5 GGK GJU GEu H0",
  "KK GHvKK GGKKK GEuKK H0 BTNoAu AAoFfADC6OaAe A6WhC0Bp AT7AM ABYE-ADBRBA AiyAM A425vaAM B8KvaAM",
  " ApMAM AjIAM ABEAvADFUBYE- AvbAM AjJRPAM A5NaAM AAyCvB7ADvc DwB4 AUqB8AD59eAe A6lxAM A52fAM BR",
  "rAM Avd5MAAM DqlAM A6EJAM CKAM AjKjLAMARA7 A6YjAM AFBFCAMKI AgBJwRPAM A6HKQN A56SQN AveYjAM A4",
  "ocYjAM AArG4B1BX ESc EBvBX BoG4B1BX ESc EBvBX BrAvCFB1H7 GSc GBvH7 BoAvCFB1H7 GSc GBvH7 BrIACF",
  "B1BX HRSd HvBX AIACFSc AAoIACFB1BX HRSd HvBX AKJSc ACvE-Sc AB1ArDeBvAoIACFHs DoDeBvArIACFHs AY",
  "lGz CH5 AGzAvCF AH5AvCF GCWGzAvCF AA1AMH5 BrBYBpE- BoBYBpE- ACvcu5tP GQ GR GS ANIAMB-BYAaGzAo ",
  "KH5Ao JDB8 H4AaCvADB8 HlAaCvADB8 HYADCw H4AaCvADCw HlAaCvADCw HYAaIb H4AaCvADIb HlAaCvADIb H4A",
  "aCv HlAaCv HYAaGzAr KH5Ar AAvcv AYvAM A5C2AM ABYE-Sc ARRF4 CCsCWE1 CE1CWCs CCsCWA7cw CA7cwCWCs",
  " GYw Cvf Dg Dh AMmvi A5Hj AGzG4 AH5G4 AGzIACF AH5IACF AGzJ5IiCF AH5J5IiCF ABE6hx AvXCiADB8 A6a",
  "l A5Gq AcFjL A5C8Lz AgB5ELAM AA8KOA4Cw CLFA4Cw CMPA4Cw COIA4Cw CKOA4CwADBYB7 CLFA4CwADBYB7 CKO",
  "CwADA4BYB7 A4NnJj A6ag BglJj AcqAD5Gy6PR AA8C8LFCw EKOCw EMPCw EOICw B4BYB7 B8AvAsEo CB8Asvj A",
  "VwAM C6CEAM CFLAM C6YCAM A6BvQOAM AAMAsvk EXgBP5NL IQ0 EIrBPQ0 Ivl E5DT Evm ET7 E4Tv ECvvn EE-",
  "jM EBYvn EARjM E4YbYv EvoMn GFg E46Avpvq EcxVxA2 J7 IBG JT EDSvm E6c15jI EIrBPvlB2 Evr EIrBPC8",
  " Evs Fq EYxJw EvtJw FjJw EOwJw EKl Evu AvvAM AC0Bp AAMAsjN EvuARA7 FsARA7;2440 APdBX Cvw Ccy C",
  "FRcy CPG4W3 CVyVo CjOjPvx C4OBBPNo CHY C433vGAg CA4T5;2460 AAyAQA2 F7 EBG FT Fa F5 ECE EB3 ECJ",
  " DgEG EOt ENG ESe Ff EPe F8 ESg ERS ESh EGl ACIAQA2 F7 EBG FT Fa F5 ECE EB3 ECJ DgEG EOt ENG E",
  "Se Ff EPe F8 ESg ERS ESh EGl AAQA2GUEo D7GUEo CBGGUEo DTGUEo DaGUEo D5GUEo CCEGUEo CB3GUEo CCJ",
  "GUEo BgEGGUEo COtGUEo CNGGUEo CSeGUEo DfGUEo CPeGUEo D8GUEo CSgGUEo CRSGUEo CShGUEo CGlGUEo AC",
  "IAHACAAAW IBD ID2 JU IA9 IEz IDE JV IA- IEW IDJ IBz ICz Jc IA6 ID8 IFw IBm Jn IDG IAz IDM IEN ",
  "ID9 Jk Jd AAyAHAFAAAW IBD ID2 JU IA9 IEz IDE JV IA- IEW IDJ IBz ICz Jc IA6 ID8 IFw IBm Jn IDG ",
  "IAz IDM IEN ID9 Jk Jd FCAAAW IBD ID2 JU IA9 IEz IDE JV IA- IEW IDJ IBz ICz Jc IA6 ID8 IFw IBm ",
  "Jn IDG IAz IDM IEN ID9 Jk Jd DQDj ADSAyAgOt GNG GSe Hf GPe H8 GSg GRS GSh GGl AA4AyAQA2 H7 GBG",
  " HT Ha H5 GCE GB3 GCJ FgEG ADSAyAQDj ABpCCB-Cv FQCv F-BY FQBY F-FxHYCv FQFxHYCv F-FxHYBY FQFxH",
  "YBY F-PcHYCv FQPcHYCv F-PcHYBY FQPcHYBY F-B4AaAo F4B-AaAoBQ HQAaAoB- FQB4AaAo F-B4AaAr F4B-AaA",
  "rBQ HQAaArB- FQB4AaAr F-BlAaAo FlB-AaAoBQ HQAaAoB- FQBlAaAo F-BlAaAr FlB-AaArBQ HQAaArB- FQBlA",
  "aAr F-BYAaAo FYB-AaAoBQ FlBQAaAoB4B- F4BQAaAoBlB- FYBQAaAoB- F4B-AaAoBlBQ FlB-AaAoB4BQ FQBYAaA",
  "o F-BYAaAr FYB-AaArBQ FlBQAaArB4B- F4BQAaArBlB- FYBQAaArB- F4B-AaArBlBQ FlB-AaArB4BQ FQBYAaAr ",
  "F-B4AaCv EArBQAaAoB4B- FoBQAaArB4B- EB4B-AaCvBQ HQAaCvB- EAoB-AaArB4BQ FrB-AaAoB4BQ EBQB4AaCv ",
  "F-BlAaCv EArBQAaAoBlB- FoBQAaArBlB- EBlB-AaCvBQ HQAaCvB- EAoB-AaArBlBQ FrB-AaAoBlBQ EBQBlAaCv ",
  "F-BYAaCv EArBQAaAoBYB- FoBQAaArBYB- EBYB-AaCvBQ FlBQAaB4CvB- F4BQAaBlCvB- FYBQAaCvB- EArBlBQAa",
  "AoB4B- FoBlBQAaArB4B- FrB4BQAaAoBlB- FoB4BQAaArBlB- EB4B-AaBlCvBQ FlB-AaB4CvBQ EAoB-AaArBYBQ F",
  "rB-AaAoBYBQ EBQBYAaCv F-A4HYCv FQA4HYCv F-A4HYBY FQA4HYBY EA4Cv GBY EB4EQAaAoA4 GA4AaAoEQ EA4B",
  "4AaAo EB4EQAaArA4 GA4AaArEQ EA4B4AaAr EBlEQAaAoA4 GA4AaAoEQ EA4BlAaAo EBlEQAaArA4 GA4AaArEQ EA",
  "4BlAaAr EBYEQAaAoA4 GA4AaAoEQ EA4BYAaAo EBYEQAaArA4 GA4AaArEQ EA4BYAaAr EB4EQAaCvA4 GA4AaCvEQ ",
  "EA4B4AaCv EBlEQAaCvA4 GA4AaCvEQ EA4BlAaCv EBYEQAaCvA4 GA4AaCvEQ EA4BYAaCv EB-LQB4AaAo Nr JlAaA",
  "r No GC+B1AoBHBvAr LrBHBvAo IGV GAr GBl GAo GB4 FQAr GBl GAo GB4 F-ArAaBQAo GBlAaBQB4 FQArAaB-",
  "Ao GBlAaB-B4 B1ByB2 BvA2HzB2 FtB2 CBGNFB2 DyB2 DaNFB2 DGMxB2 CCENFB2 AGUB2 AArCENFB2 CBGMxB2 D",
  "aNFB2 DyB2 DGNFB2 CA2HtB2 FzB2 BoByB2 AB-NJ AC8NJ AvyNJ AB1A2HzB2 AAoA2HzB2 AKWBvAr Fo D1Ar GA",
  "aBvArAaBvAo Lo J1AoAaBvAr Ro Fo GAaBvAr MAaBvAo AA8Av ABEAv EADM3Vz ERTA8ACAv AAvADCvL1 EBYL1 ",
  "E6ChvzL1 EB1ArBHBvAoL1 HoBHBvArL1 EC+vzL1 B8ACAv ABEACAv AA8RQ ABERQ AA8BYRQ ABEBYRQ AA8v0 ABE",
  "v0 AA8MPCw ABEMPCw AA8MPACCw ABEMPACCw AA8KOCw ABEKOCw AA8KOACCw ABEKOACCw AA8KOYy ABEKOYy AA8",
  "OICw ABEOICw AA8OIACCw ABEOIACCw AA8LFCw ABELFCw AA8LFACCw ABELFACCw AA8LFYy ABELFYy AA8G1 ABE",
  "G1 ERTA8ACG1 A5GX AOH ABEB8 AHPB8 AB8ADBYL1 A4W- AA8B8 AB8ADArByA8 FoByA8 EBvByA8 F1ByA8 GAoKW",
  "A8 EYnQKB1ArKWA8 AArByA8B8 BoByA8B8 APfNn CBEB8 AB1ByPfBEB8 BvByPfBEB8 B1ArKWXsLQ DoKWXsLQ BvA",
  "oKWXsLQ DrKWXsLQ B1ByB8 BvByB8 AA8BvAoCw FrCw D1ArCw FoCw ABENn AAvADArByA8 FoByA8 EB1ArC+ByA8",
  " FvAoC+ByA8 ABEAvADBY4VsE- CMPCwADBA AMPCwADArByA8 HoByA8 ADmB8 ABEAvADB1ArKW HvArKW JoKW H1Ao",
  "KW CB8ADB1ArKW HvArKW JoKW H1AoKW B1ArCw DoCw BvArCw BEC8Av AA8C8Av ABEC8ACAv AA8C8ACAv ABvAoC",
  "w AA8MoADPg AQP AYz AjQ A4qh AA8Fy ABEFy AY0 A6gD AMo Av1v2 AgQv2 A42z AjR AA8Os ABEOs AOJBp E",
  "ADNo GD9 APh AYzADT85BG B1v3 ABEczSd AA8czSd A6Vt AD7FbjSI-Nn AA8ArEdBu DoEdBu ABEArEdBu CBlEd",
  "Bu CAoEdBu CB4EdBu AjTAav4 A4YkAB A6KPAB A4VnAB Av5 A4OZ A6CgGV AJuJU AGVBP5t+ Fk1 AFyAaV0 ANb",
  "AM A4M26Vq Ac0Aa6XM AjUAM AQwOZ ASiAsc1 Ev6 EPi EjV EPj ENp ESj EMm Ac2BP47Z ABEc3Bt CKXBt AA8",
  "KXBt ABEMoADPg ARJHtJK AjWHtJK Ac4 AV1AB AMm AQQAB A5lw A6Pf Av7 B8 AY2 A4PO A6ej A5JV A4YJ A5",
  "sl A6pU A5s6 A6Pz BO4 A4YU BO8 A6F- ABEDbL2 EMp EOx Fy EJY EOz AA8DbL2 EMp EOx Fy EJY EOz Cv9R",
  "U ABEI-RU CG1RU AA8jXRU ABEv9RU AA8I-RU CG1RU ABEjXRU AY16ZR AHtJk BzJk Ac5HzY3 CVGY3 AauT9AB ",
  "CjYAB CTWAB AGHDsGV AFhDsGV Av+QRAM AQRAMAs6kDT+ IFT+ Gv-T+ GwAT+ HBT+ HCT+ G6kGT+ G5JY5zR AA8",
  "v+QRAM A6K5c6AM BEBc6AM C0c6AB AjZAM ASk5FZ Ea Eb Ec Ed Ee ABEB8ADBAAo GA7CR AA8B8ADBEBAAo GA7",
  "BECR ARVAsOZ EQw BWAswDOZ FEQw GOZ FDQw ABEO0 AA8O0 Ac0AawF AwG AOK6b+ ASlBP4NE A6Pq AwH AYi A",
  "ja ASlBP5Nf A4QDAM A5Gr AT-BEFy ABGjbwIAo Hr A6q6AB ACP6plAB AXoV1AB CQQAB A5kIV1AaQQAB AQQAaV",
  "1AB DDBMAB HaQQAaV1AB ABYQQADBMAB ACvQQADBMAB B8BEB8 CA8B8 DCBEB8 A5zCAM A48aAM A6l5wJAM A4qY ",
  "A5Hf6mG B6P A4ZO A6DW A5lq A6o3 A4nh AA8JK5tG A6Vg BUN BJD BUZ BYfO1 A4UP ABoRP BEc7Kx EL2 AA8",
  "c7Kx EL2 AjQY4jc AMojdQP AT8 AA8jQ AjVQPAaT8 ACjBEczSd CA8czSd ABEG1FgAv AIjwK A48ISm A6CW AwF",
  " ASm6YH Ac8ADBEGV AAyIjwK A4ZT AHije Bl6CJArYUY5 AA8wLArYUY5 ABEwLArYUY5 AA8ArwMwN ABEArwMwN A",
  "wOwPAB ABQBEOICw AArHFje ABoPh AUAC+FgBEB8FgA8Av AA8jf AwQAr5DW GX A4P4AMAsv7 ABQB8ADBMAaA7CRA",
  "q Ac9 A6MAwRc9 A5sVwRc9 AFRc9 AA8GVFLjg A6WI6Wp AwS Ajh A5ON6Xt AjaY45Q+ CAD5Mu AY6AMAs5tD ASj",
  " AYzFLvi AwT AO0FgwU A5F+ A6O7 AAvBTVz A6X5 ASnwV AK0ADO1 Aji ASojPAM AwW5LWAM A5Hb6Hs AYqFLA8",
  "Av ABEO0ADCvBRA86ax AA8jjV2 AB1wXV2 AA8V2 ABvwXV2 BEV2 CBQNoAu AOsSpAB AwYwO ASq ARX AIRjk CIu",
  " AwZIu BaIu ABvAoc+ Ac+ AB1Aoc+ BEwb AA8wb ANoAu ABQNoAu ANxD9 ABQNxD9 AOJD9 ABQOJD9 AT-AkGV A",
  "BQAkGV AC0FUGV ABQC0FUGV AAHGV AOLBEAHGV AT-AHGV A5ypGV AFyBP46B ABTUBG5 CjlG5 BQBTjlG5 BT4orG",
  "5 AA8BTH3Fy ABEBTH3Fy A6Y4 AXpT-BEFy AAyBEFy AC0FUA8Fy AA8FUBEFy AT-A8Fy ABQT-A8Fy ARYFy AOLBE",
  "Fy ABQG5 AC0FUG5 AB3L3G5 CH3A8Fy ERYFy B5H3A8Fy B3H3wcA8Fy BQB3H3wcA8Fy ANGH3A8Fy AP8H3G5 AUBG",
  "5 AC0FUUBG5 ABQUBG5 B5wdA8AaBEc- AA8c- ABEc- B3wdT-A8c- AAyC0FUB3H3Fy ABQUBRYG5 Ajm Bn6h9jm AB",
  "Qwejm Awf ABQwf AjlG5 AB3UBwgG5 BQB3UBwgG5 AGVAu AOLBEB8 ADSBoGVAu ABvAowhBEAv B1AowhBEAv BvAo",
  "OLBEAv B1AoOLBEAv AA8JCAuFY ABEJCAuFY DsAuFY AA8G1K8BED9 ABQJsAuAM B-BYB7 AC8BYB7 ABQBYB7 CEQC",
  "jFqI4AuFY EFqI4AuFY CA4CjFqI4AuFY EFqI4AuFY CCKEQFqI4AuFY EA4FqI4AuFY ALRPkXhABFY ABQJsAuFY CI",
  "-JsAuFY CA8I- AFbBQA8I-Nn AjSI- AFbjSI-Nn AC8ArG4FY DoG4FY CYeArG4FY FoG4FY CLFFfCFFY CKOFfCFF",
  "Y ABQLFFfI4AuFY CKOFfI4AuFY CLFFfCFFY CKOFfCFFY B-ArJ5IiCFFY DoJ5IiCFFY AC8ArIACFFY DoIACFFY A",
  "IkDSAyAQA2 J7 IBG JT Ja J5 ICE IB3 ICJ HgEG CAyA0AQA2 J7 IBG JT Ja J5 ICE IB3 ICJ HgEG CDSAyA0",
  "AQA2 L7 KBG LT La L5 KCE KB3 KCJ JgEG ABQHZBfAe CBkAB CK8AB CRwAB CD0FhAe CBfAe CDAFhAe A5A+Jf",
  "BfAe ABQ6MuBfAe AEfBfAe ABQEfBfAe AOBEfBfAe ABQOBEfBfAe AA8BfAe AV3joBfEj C4WUBfEj AA8BfEj ABQ",
  "A8LRC6AaBfAe H-AaBfAe AooA8BfAe ABQ42rA8BfAe AjpBEBfAe BqBEBfAe BrOLBEBfAe BsOLBEBfAe ABQBvdAB",
  "EBfAe D1dABEBfAe AQSBvdABEBfAe AIAJd AQSB1dABEBfAe AAyBQBEBfAe A6raBfAe AV4D0FhAe CBfAe CDAFhA",
  "e ABQV4D0FhAe EBfAe EDAFhAe A6e4BfAe ABQ6e5BfAe AwiBfAe ABQwiBfAe A6CUBfAe AA4IAJd ABG477Ff BE",
  "CwRTACBECw Ajt AC0J3 D4 AArwjcna6 Bowjcna6 ADeADBALc AK6KNwkJ3 AJ4wkKN ABYB7ADCvBM AANM6C+ ACs",
  "Rw AANUAC+ ABoJJAa EDe BEG1ADQvBA AAaADBA AOCBPUCC- ABvAoH7ADBA B1ArH7ADBA AArjudB BojudB AGUj",
  "udB ADmBlII D4II AArAaAoA4SZ GII CjF ACsAoII DrII ABlIIADB8Aq AOHjvOVCv6NW ABEjwG1 GADBxP2 JfP",
  "2 CAvADBxP2 HfP2 AANArBEAvCF DoBEAvCF DrFfCF DoFfCF DrA4FfCF DoA4FfCF DrBEJ5IiCF DoBEJ5IiCF Dr",
  "YeG4 DoYeG4 AC-PcAe B6PcAe ALDwlB8Ae AMlwlB8Ae AAoAeADAyBk ACsBxAe DfAe CArAoAe CBxA4Ae DfA4Ae",
  " CArAoA4Ae CBxAeIEB7 DfAeIEB7 DxA4AeIEB7 DfA4AeIEB7 EcgAe ABKBJvv E482 F+2 F83 F-2 F93 F+3 F84",
  " E5AW E4+X F-X F9Y F-3 F94 F+4 F85 E5Am E4+n F-n F9o E5AH E4+I F-I F9J E5AX E4+Y F-Y F9Z F-4 F",
  "95 F+5 F86 E5Au E4+v F-v F9w E5AP E4+Q F-Q F9R E5Af E4+g F-g F9h E5AA E4+B F-B F9C E5An E4+o F",
  "-o F9p E5AI E4+J F-J F9K E5AY E4+Z F-Z F9a F-5 F96 F+6 F87 E5Ay E4+z F-z F90 E5AT E4+U F-U F9V",
  " E5Aj E4+k F-k F9l E5AE E4+F F-F F9G E5Ar E4+s F-s F9t E5AM E4+N F-N F9O E5Ac E4+d F-d F9e F-9",
  " F9+ F++ F8- E5Av E4+w F-w F9x E5AQ E4+R F-R F9S E5Ag E4+h F-h F9i E5AB E4+C F-C F9D E5Ao E4+p",
  " F-p F9q E5AJ E4+K F-K F9L E5AZ E4+a F-a F9b F-6 F97 F+7 F88 E5A0 E4+1 F-1 F92 E5AV E4+W F-W F",
  "9X E5Al E4+m F-m F9n E5AG E4+H F-H F9I E5At E4+u F-u F9v E5AO E4+P F-P F9Q E5Ae E4+f F-f F9g F",
  "-- F+A F-A F9B E5Ax E4+y F-y F9z E5AS E4+T F-T F9U E5Ai E4+j F-j F9k E5AD E4+E F-E F9F E5Aq E4",
  "+r F-r F9s E5AL E4+M F-M F9N E5Ab E4+c F-c F9d F-8 F99 F+9 F8+ E5Az E4+0 F-0 F91 E5AU E4+V F-V",
  " F9W E5Ak E4+l F-l F9m E5AF E4+G F-G F9H E5As E4+t F-t F9u E5AN E4+O F-O F9P E5Ad E4+e F-e F9f",
  " F-+ F9- F+- F9A E5Aw E4+x F-x F9y E5AR E4+S F-S F9T E5Ah E4+i F-i F9j E5AC E4+D F-D F9E E5Ap ",
  "E4+q F-q F9r E5AK E4+L F-L F9M E5Aa E4+b F-b F9c F-7 F98 F+8 F89 BfLiAeADBYBM IA4BYBM BxA4AeAD",
  "BYBM BfA4AeADBYBM AArAoA4AeADBYBM ABfLiAeIEB7 BxA4AeIEB7 BfA4AeIEB7 AC6AeADCvBM B-AeADCvBM CFx",
  "Ae B6FxAe ABxA4HYAe BfA4HYAe BxFxHYAe BfFxHYAe CLiFxHYAe CAeADHPPk AC-AeBHB7 B6AeBHB7 ABfAeADF",
  "rADBYBM KA4BYBM CLiAeADFr KADBYBM MA4BYBM BxdC BfdC BxA4dC BfA4dC BxAeBHA8G1 BfAeBHA8G1 BxAeIE",
  "B7BHA8G1 BfAeIEB7BHA8G1 ADAGHAaD0FhAe CFhAaD0GHAe CGHAeADBX CFhAeADBX B0FhAeADBX CGHAeADBX BAG",
  "HAeAaDAFhAe CFhAeAaD0FhAe B0FhAeAaD0GHAe CGHAeAaDAGHAe AM6C+IjUAC+ AUAC+IjM6C+ AD0FhAeIjDAFhAe",
  " BAFhAeIjD0FhAe AUAC+IjDAFhAe AM6C+IjD0FhAe ADAFhAeIjDAGHAe CGHAeIjDAFhAe AIbAeEdwmAo AAeEdBfR",
  "ZY7C- L6 EC6RZY7Bx Lf A6MCLQMlAe A5sXLQLDAe AGzLQLDAe AH5LQLDAe AGzLQMlAeADK8 ELDAeADBk ABvAoj",
  "xMlAe DrjxLDAe ALDHFB8Ae AMlHFB8Ae ABfAeAqE1BxAe BxAeAqE1BfAe AE1BfAeAqBxAe ABfAeADBkA+ BxAeAD",
  "BkA+ BfAeNKD9 AArAoAeNKACB8 AC-LiAeIEACB8 AArC9BlAoC9B4Fc F4AoC9BlFc ABlC9AoB4C9ArFc FrB4C9AoF",
  "c AArC9BlAoC9BlFc ABlC9AoB4C9AoFc AArC9B4AoC9B4Fc ABlC9ArB4C9ArFc BxFcADC9BlBHB7 BfFcADC9BlBHB",
  "7 AC-FcADC9AoBHB7 B6FcADC9AoBHB7 ABxFcADC9B4BHB7 BfFcADC9B4BHB7 AC-FcADC9ArBHB7 B6FcADC9ArBHB7",
  " ABxFcADC9BlIEB7 BfFcADC9BlIEB7 AC-FcADC9AoIEB7 B6FcADC9AoIEB7 ABxFcADC9B4IEB7 BfFcADC9B4IEB7 ",
  "AC-FcADC9ArIEB7 B6FcADC9ArIEB7 ABxFcADC9BlAqBxFcADC9B4 AC-FcADC9ArPlC-FcADC9Ao ABfFcADC9BlAqBf",
  "FcADC9B4 AC6FcADC9ArPlC6FcADC9Ao ABxFcADC9BlAqBfFcADC9Bl J4AqBfFcADC9B4 BfFcADC9BlAqBxFcADC9Bl",
  " J4AqBxFcADC9B4 BxFcADC9BlAqCsHY J4A+CsHY BfFcADC9BlAqCsHY J4A+CsHY AC-FcADC9ArPlC6FcADC9Ao B6",
  "FcADC9ArPlC-FcADC9Ao AAoA4AeADM3JV AH-ABAqBfAe AC5G2AqBfAe ABxAeAqC5G2 BfAeAqC5G2 GMXCmBH AFuA",
  "qBxAe ABxAeNKFu AFvAqBfAe AJ3AqBfAe ABxAeNKJ3 AJ4AqBxAe AArQTFr BoQTFr ABlQTFr B4QTFr AFxBYB7a",
  "6 ADdEY6ZN EcHId AArBEIACF BoBEIACF BrBEG4 BoBEG4 ADdEYArROCF FoROCF FrwnCF FownCF AArAvCFADKK",
  " BoAvCFADKK BrAvCFADP2FgGzH7 BoAvCFADP2FgH5H7 BrAvCFADP2FgH5H7 BoAvCFADP2FgGzH7 BrFfCFADBA BoF",
  "fCFADBA BrLQFuCF BoLQFvCF B4ArLQFvCF DoLQFuCF BrA8J5IiCF BoA8J5IiCF AHPY8 ABYOaE- AOvFfUCAr AA",
  "oFfIlADAv AOvAoFfADBA AFfADBnLc ADiFf Ai+FfUCAr GBl ACjFf AD7Ff AFfADKK AD7FfADKK AMGFfUCBl H4",
  " AOvFfADC0K1SrFgAeEdBlAaAo Xr T4AaAo Xr SAoAaBl TrAaBl ToAaB4 TrAaB4 AD7M4RL AM4RLADOG GACB8Aq",
  " HoAeAq HrAeAq AB8ADCvB7 AAyBYB7 CQJ CK6KN Cjt AB8jvOVCvB7AaGzByjvOVBYB7 CAD6brD9 AAy4OhRwAB A",
  "BlAeNKB8 AAyBENn CNn CFu Dv AB8ADACB8BHHIAo F7Cvh2BHHIAo BoM6C+Mk CUAC+Mk CG5 CACB8 Dv AA7YwdD",
  " ACwADBAAq EKK ABnFgCw ACwADdEJcH5 AAoCwAqArCw BrCwPlBYB7 ABYB7PlAoCw AcmADArByA8 FoByA8 AA8cm",
  " BYADArByA8 FoByA8 ABEcq AA8cq BrViY8 BoViY8 BrA4ViY8 BoA4ViY8 A5j2Vh AVoCWVh BhvTADBYB7 A5A4j",
  "F AAvAD4266Cr A5j3Nd A6WxOD AH-ABAaJZQJ KADC5Aq AcjBHAaJZQJ A5Kx6aM A6fn AOICwADArByA8 HoByA8 ",
  "AA8G1ADB4Ae COH ABEB8ADB4Ae AA8B8ADB4Ae AV5BEAv CA8Av CBEG1 CA8G1 CBEB8 CA8B8 A6NX AK6KNG2 BNA",
  "DOG B6KNADCvBM AM2KN D6KN AA4Bk AFxBk ALFLRFfCF AKOLRFfCF AY9 A51s AMMAyBAG2 FkG2 EAYG2 CLPG2A",
  "DBA Jk CAvLzG2 FPG2 AA7JJAaG2 EDeG2 AMMAYG2 A52TA7V6 AYlADKJ APcKJG2 A5GRjyKJ AKJADA4BM C4QXAD",
  "Mk A4oOu2 ALDdF AE-dFADpgY+jzY- GjxY+jzY- EFT5j0HIY- AKJjzAWJfG2 A6I8KJG2 AKJADBxAeADBX EAYAB ",
  "ELz FP EOG EKK AdB ADmArCwG2 BdEYj0jI G6F7 HHU ABkABADACB8Aq GEOFHAq GC5Aq GBAA+ GC5A+ GHgA7 G",
  "A8Cw AK8ABADFqAq GBAA+ GUACR GM6CR ABkABFgArByB8 HoByB8 A6n9DeGVOD ANxABADBAAq GKK AYrODADH5HF",
  " AwoOD ANxABFgArByB8 HoByB8 AAyNxABADEOFH ANxABFgA4B8 AAyRwAB ABkABFgCw AK8ABFgCw ANxABFgCw Aw",
  "pOD A6MDwpOD ADdEY6LFjI A4N8DevM ALzADBA BPADK8AB EOG BzADOG EJJAa BPADJJDe DqLz BzAqLP BPAqB7",
  "AqLz BzAqB7AqLP BPPlAaYwADLP BzPlAaYwADLz AHFLPADdE DzADdE AA4AvLz FP AHFLPADdEAawoOD AJJAaADB",
  "AAq CDeADBAAq AA4JJAa EDe B7wqJJAa GDe AwrDmDe EAa AJJDeZAJJAa CAaADBRPk CDeADBRPk CAaADCvHY C",
  "DeADCvHY CAaADA4OG GKK GA4KK AACSQADKK AJJDeADA4OG IKK ADdEY48xws EZBws AH-ABADBAA+ AcjADBAAq ",
  "AFxCvB7ADA4BYBM IFxBYBM AC5G2ADBAAq GM6CR AQUK8QU A42wADBAAq AH-ADG5 AMXCmBHADEOFH AVsCmDeCmBH",
  " AH-ABAqBkAB ABkABAqH-AB AH-ABAqC5G2 AA4IdCm B7wtH-wu ABGwtH-wu AH-ABADA7CRAqAaA7CRA+ ANHADBTC",
  "RAq AFuADB8Lc BvADB8Lc BuADJCAuAq BvADJCAuAq BuDeJZCmBH BvDeJZCmBH BuDeJZCmBHADBALc BvDeJZCmBH",
  "ADBALc BuDeJZCmBHADBAAq BvDeJZCmBHADBAAq BuDeJZCmBHADBAAqAo BvDeJZCmBHADBAAqAr BuDedG BvDedG B",
  "uAaV7FTCmBH BvAaV7FTCmBH BuAaFTdG BvAaFTdG BuAqQVCmAqFv BvAqQVCmAqFu BuAqQUDeCm BvAqQUDeCm BuA",
  "qQUAqFv BvAqQUAqFu BuAqFvAqQVCm BvAqFuAqQVCm BuAqJZCmAqFvAqJZCm BvAqJZCmAqFuAqJZCm AJZCmBHDeFu",
  " Jv JuADBALc JvADBALc AQVCmBHDeFu Jv CJZCmBHDeFu Lv BUDeFu Fv CAqFuAqH-AB FvAqH-AB AA4ZCFu Fv ",
  "FuADKK AFvZAFu CPlFu BuHFOVHq BvHFOVHq BuHFOVHqAqJZCm BvHFOVHqAqJZCm AwvVE BwVE BvVEDeCmBH BwV",
  "EDeCmBH AH-ABAD4XAAq AOEAqV7H-AB BFAqV7H-AB BEAqV7FTCmBH BFAqV7FTCmBH BEAqH-AB BFAqH-AB BEAqFT",
  "CmBH BFAqFTCmBH BEAqMXCmBH BFAqMXCmBH BEAqFTMXCmBH BFAqFTMXCmBH AA4OE DF AJ3ADBA B4ADBA B3ADBk",
  "ABA+ B4ADBkABA+ B3ADNxABA+ B4ADNxABA+ B3BPDeCmBHADBAAq B4BPDeCmBHADBAAq B3BPAqH-AB B4BPAqH-AB ",
  "B3BPAqC5G2 B4BPAqC5G2 B3BPAqMXCmBH B4BPAqMXCmBH B3BPAqFTCmBH B4BPAqFTCmBH AAvArC0BpG2 DoC0BpG2",
  " AHFJ3 D4 D3DeCmBH D4DeCmBH AJ3AqJ4 B4AqJ3 B3AqJ3 B4AqJ4 CPlJ3 EAaYwOVHYADJ3 AOCBPUCC6 AvUADVX",
  "Gz A6hvLz A5HF B9Z AE1ArII CB4II DlII AjtADBn ABYB7FxAoSZ AA4BYB7ArSZ ABYB7A4ArSZ AA4BYB7A4ArS",
  "Z ACsHYIEArciBPA4BY AE1B4IIADOG DlIIADKK HqE1B4II AA4B4II DlII DMFTAB AD7A4BMFTAB AOuFTi-ADD75",
  "6FMk ABYE-ADB8Aq J+ B4IIADB8A+ AQJADCvBM F5G2 AFxBYB7wxcl GADCvBM CIdG2 CZCFu Fv AQVJZFuDeCmBH",
  " FvDeCmBH AFxKNwxcl ADmFxBYB7G2 AA4KNG2 ABEBYB7 AMMBEBYB7 ADAFhBEAe CGHBEAe B0FhBEAe CGHBEAe A",
  "ArAoBEAe ABxA8Ae AC-A8Ae B6A8Ae ADAFhA8Ae CGHA8Ae B0FhA8Ae CGHA8Ae AArAoA8Ae ABlB4A8Ae BfAeADL",
  "EC6 J- BxAeADLEC6 J- AAvADGzByA8 EH5ByA8 EB1AoC+ByA8 FvArC+ByA8 AG1ADArByA8 FoByA8 EGzByA8 EH5",
  "ByA8 AHPAv AA8DmAv ABEDmAv AA8ItACAv ABEItACAv AA8ZD ABEZD Cj1 AA8j1 ACvA8j1 AA8DmB8 CC8G1 ABE",
  "C8G1 AA8C8OH ABEC8OH AA8ACG1 EOH ABEACOH AA8CvdH ABECvdH AA8BYdH ABEBYdH AArAeADACB8 ABGBxMN A",
  "ArAeADAyBk ACsBxcgAe ABxLiAeADBYBM IA4BYBM GIEB7 EFxHYAe CAeADHPPk GFrADBYBM KA4BYBM CLiAeADFr",
  " KADBYBM MA4BYBM CAeNKD9 AIbAeEdwmAr AH-ABAqBxAe AK6C5G2AqBxAe ABxAeAqK6MXCmBH BfAeNKFv GJ4 Bx",
  "PcAe BfPcAe AK6C5G2AqBfAe ABfAeAqK6MXCmBH AC5G2AqBxAe ABxAeAqMXCmBH GK6C5G2 BfAeAqK6C5G2 AC6Ef",
  "OaAe AE1JZDAAe Cj2D0Ae ABEC8Fy AA8ACFy ABEACFy AA8KOZD ABEKOZD BQDmB8 CZEADZELc CB8ADB8Lc E CA",
  "yPh AJZDAAeADV8JV Aj2D0AeADV8Fr AJZDAAeADCvFr Aj2D0AeADCvFr AJAAeEdC6RZDAFh AE1JAAeEdC6RZDAFh ",
  "ABxEfAe AC-EfAe ABfEfAe AC6EfAe AArAoEfAe ABlB4EfAe ADAGHEfAe CFhEfAe B0FhEfAe CGHEfAe ABxEfOB",
  "Ae AC-EfOBAe ABfEfOBAe AC6EfOBAe AMlEfC0B8Ae ALDEfC0B8Ae ABxEfAeBHB7 AC-EfAeBHB7 ABfEfAeBHB7 A",
  "C6EfAeBHB7;2B76 ADAGHEfAeBHB7 CFhEfAeBHB7 B0FhEfAeBHB7 CGHEfAeBHB7 ABxEfAeADA4CvBM AC-EfAeADA4",
  "CvBM ABfEfAeADA4CvBM AC6EfAeADA4CvBM BvQWRP ABYQWRP BxEfAeCWBfEfAe AC-EfAeBxBPC6EfAe ABfEfAeCW",
  "BxEfAe AC6EfAeBxBPC-EfAe ABxEfSYMN AC-EfSYMN ABfEfSYMN AC6EfSYMN ABxA8AyBEAe AC-A8AyBEAe ABfA8",
  "AyBEAe AC6A8AyBEAe ALDEfAoZFAe EH5ZFAe EArZFAe EGzZFAe AYvAr Do AjNAr Do ABTH7MNwyLD BfA8Ae;2B",
  "97 AAMAscHAW5C9 AV3joBxKYEj C6MBC-KYEj CjoBfKYEj C5sWC6KYEj AA8BxKYEj CC-KYEj CBfKYEj CC6KYEj ",
  "AC6EfAeADCsLEBx Nf B-EfAeADCsLEBx Nf ABxEfAeADCsLEC- BfEfAeADCsLEC- BxEfAeADCsLEC6 BfEfAeADCsL",
  "EC6 AA8LRC6AaBxAe JfAe F-AaBxAe JfAe EBxAaC-Ae FfAaC-Ae FxAaC6Ae FfAaC6Ae APmAeB4Ar Ho FlAr Ho",
  " EArBl FoBl FrB4 FoB4 AC-BEAeIEB7ADCvB7 ABlEjFgAWRQBp AZABEdD EAaA8dD CA8dD AOJBpADB-D9 AAyD9 ",
  "CAcD9 B8AvQv CG1Qv ACjA8ZD BvA8wz AA8wz CC8MPCwQv EOICwQv ELFCwQv EKOCwQv Av8ARA7 AGzByA8B8 AH",
  "5ByA8B8 AB-BTH3A8dI AFbB-BTH3A8dI ABEBTH3dI AFbBEBTH3dI AAvVuIY A6luAB AvtAu AY2ARA7 EBG FT Fa",
  " A6hu BHa A4P3 A5Ro A6FT A56L ABEJK6UL AA8G1FLGV AjEB-JK4Pe A43v A5MY A6wl A5pj A4Ox BM3 A6pz ",
  "BGu AArByA8Fy BoByA8Fy AFyADArByA8 FoByA8 ABxLiAeADCwdJ AC-LiAeADCwdJ ABfLiAeADCwdJ AC6LiAeADC",
  "wdJ Aw0ARA2 F7 A6QE AV9Q6AM6pM G59i G6JG G4Vm G6UQ Hh0 AH-ABADVhA+ A6l2AM BUUAM AXoAM A6EGAM A",
  "D7AoFf A5NZ6ESAM ACSAFAAj3 H4 H5 H6 H7 H8 H9 GdK Gj+ GV+ GBbV+ GA- Gj- GkA HB GZG GkC HD HE HF",
  " HG HH HI HJ HK Gw1 GGy GkL GTw GZH GEp GPJ GdL GkM Gw2CG GHd GACIs KADFr GIh GV-ACIs GM2Is GV",
  "-M2Is GTa GU1 Gw3 H4AW H5ZG H6ZH DCAAj3 H4 H5 H6 H7 H8 H9 GdK Gj+ GV+ GBbV+ GA- Gj- GkA HB GZG",
  " GkC HD HE HF HG HH HI HJ HK Gw1 GGy GkL GTw GZH GEp GPJ GdL GkM Gw2CG GHd GACIs KADFr GIh GV-",
  "ACIs GM2Is GV-M2Is GTa GU1 Gw3 H4AW H5ZG H6ZH AAHAFAABzADA4B7 DCAABzADA4B7 DFAABzADBRC5 GD8ADB",
  "M GBmADFr DCAAAWADBM GDGADC+BM DFAADVADHe DCAADVADHe DFAADJADHe DCAADJADHe DFAADdADHe DCAADdAD",
  "He DFAAE0 GCzADBX HjAW IE0 DCAADMADAoBX DFAAENADBX DCAAENADBX GDMADKn DFAAByDV DCAAByDV G6eJKB",
  " GA9ADvc GCjBmADFr GA6ADCKCiLc DAACAFCjA9 CHgACAAEW ABCAAAFDM AAHAFAABnADUrFr GDdADUrFr ABhAFA",
  "Aw7 DCAAw7 DFAAw8 DCAAw8 DFAAKm DCAAKm DFAAw9 DCAAw9 DFAAdM DCAAdM DFAAw+ DCAAw+ DFAAdN DCAAdN",
  " DFAAw- DCAAw- DFAAxA DCAAxA DFAAxB DCAAxB DFAAdO DCAAdO DFAAxC DCAAxC DFAAI8 DCAAI8 DFAAIL DC",
  "AAIL DFAAab DCAAab DFAAA6 DCAAA6 DFAAGW DCAAGW DFAAJz DCAAJz DFAAkN DCAAkN DFAALq DCAALq DFAAV",
  "g DCAAVg DFAAPR DCAAPR DFAAcC DCAAcC DFAAMB DCAAMB DFAAdP DCAAdP DFAASsB6 DCAASsB6 DFAAAnBhHA ",
  "DCAAAnBhHA DFAARHdM DCAARHdM DFAASsdO DCAASsdO DFAASsIL DCAASsIL DFAARHIL DCAARHIL DFAAAnBhdP ",
  "DCAAAnBhdP DFAAUt DCAAUt DFAAOKR3 DCAAOKR3 DFAAAnBhR3 DCAAAnBhR3 DFAAAnBhLW DCAAAnBhLW DFAAxDU",
  "x DCAAxDUx DFAASsUy DCAASsUy DFAAAnBhUy DCAAAnBhUy DFAAAnBhCG DCAAAnBhCG DFAAxECG DCAAxECG DFA",
  "AAnBhxF DCAAAnBhxF DFAAAnBhUD DCAAAnBhUD DFAAAnBhUz DCAAAnBhUz DFAAAnBhxG DCAAAnBhxG DFAAAnBhT",
  "Z DCAAAnBhTZ DFAAAnO2TZ DCAAAnO2TZ DFAAAnO2cA DCAAAnO2cA DFAAAnO2Nh DCAAAnO2Nh DFAAAnO2kO DCAA",
  "AnO2kO DMUv EI8Jz EGWJz E6aS ELqJz EcCJz ETZkN DFAARHR3 DCAARHR3 DFAARHUz DCAARHUz DiILAq ExH4",
  "Pu GxI DFAAxJUx DCAAxJUx;2CF9 ABhAnO2GUEo GjKJCAu G5j7JCAu GgAWA CDPA2By CGUEo C52mWA BqACAAH4",
  " GbE GTp GbF GF+ GbG GXk GbH GFg GVM GbI GKx GX4 GFL GbJ HK GVR GU0 GTq GQ9 GbL HM HN GX5 GIa ",
  "GbO GNg GX6 GbP HQ HR HS HT GHV GX7 GJv GVS GbU;2D27 ABqACAAVT;2D2D ABqACAAVU;2D30 AF1AAC1 E6t",
  "n Go Gx Gy ExKxLkP EkP E6tq Gt Gr Gs Fub Ftv Egt EStgt E6t2 EdQ ExKxLdQ EStdQ E6t0 EU+ ExM ESt",
  "xM ExN EStxN EAJ EkQ E4NSkQ EStkQ E6t3 ExO Et5 ESt6tz GOZ ExP EHd Eq4 E6t7 EkR EStkR E4QfkR E6",
  "t8 G+ G9 EQx E6t- Gp FuA GC GD Et0 ExQ E6emxQ FuI EMi EIh;2D6F AF1BCAA5q7Au CJwAu;2D7F AF1DzTY",
  " AAlAE5tm F19 E6Ma FYd FWN E4WF E6hD E4qQ E59R F-i EIHYV E6xX E48p F6X E5lb E6f1 E4nn E6FS FGY",
  " E5J8 FKA FJ- G+;2DA0 AAlAEHh EkS FT E6Zb Gp ExR EiQ;2DA8 AAlAE4Yn G6 G4 Go Gq Gp G5;2DB0 AAlA",
  "EdR ExS FT E6xv Gz ExU FV;2DB8 AAlAE4Yr G3 G1 Gs Gt EkU E4Y2;2DC0 AAlAE6JV Gf GZ GW GY GX Ga;2",
  "DC8 AAlAEkV E5qj Gg Gd EdS E5qf Gi;2DD0 AAlAExW E6tS GK GI GJ ExX E6tL;2DD8 AAlAE5L3 G- G9 G4 ",
  "G7 G6 G+;2DE0 AAiAtAAM0 HD GLr GKp GMY GKq GBe GKb GLs GF+ GA6 GGy GM1 GPI GH2 GCG GNW GKP GEp",
  " Gfr GTa G5Dp GAW GMC GkW HXU2 GQx GHd GMZAW GE7Is GM2Is HZM2Is BoFfWBR9 EHPWBR9 BrWBCF BoWBCF",
  " BrHPWBCF BoHPWBCF AIRxYR9 CHPxYR9 AHPkYR9 AArkYCF BokYCF AIRAv AArIRxZCF BoIRxZCF A5Cq43J AkZ",
  " AxakZ AD7xakZ A5Rq AHP6Bo AC6xb B-xb AHPKOFf AA4MGOU AFRYh AWCjO AOUADEi AC5ADCiAq AArCKxcCF ",
  "BoCKxcCF AC5ADBAAq H+ AArBYB7ADcb BoBYB7ADcb AGzArByCF DoByCF AH5ArByCF DoByCF AArLdAzCF BoLdA",
  "zCF BrA4G4 BoA4G4 B7CRCWA2BADH B2BACWA7CRDH ABoBTBADH BaBAAu AD7JCAu ABYC5 ACiJf AKcJwBRBA ACj",
  "Fq AIRBA CFq ACjOT AT3ADArxd Foxd ACjT3 AGzByHsAB A6j4HY Bf7HY BaXGUEo ABYB5CR AViBYE- A4YR AA",
  "4OU AD7Fq AA45uII4Au AHYADArfs AA4ivAu AFRCKRI GADRIAq ACKRI EADBA AA46aEFq AHPKN AFxT3 AkaFq ",
  "A6D7Au BHt5C-Au A43IgAWA AGVxeADAoxf Hrxf Au0ABAFN0 AkaJsAu DCAu AArAvCFADBM BoAvCFADBM BrAvCF",
  "ADA4BM BoAvCFADA4BM AGzByArG4 FoG4 AH5ByArG4 FoG4 AMGOU;2E80 AALA1Ra Ekb ERbA2 H7 GBG EK0 EBp ",
  "Ekc EWDA2 H7 Exg Ekd EACA2 H7 EZIA2 H7 GBG HT EcW Eke FfA2 H7 EI-A2 H7 Fu Ekg;2E9B AALA14nq EM",
  "o EJK Exh Fi E4oT ENpA2 H7 EPi EkhA2 H7 EZJByQXxj FK EWE Exk EkiBPkj EQO EdTA2 H7 Ekk Fl EK2kl",
  " EWFA2 H7 GBG HT Exl Ekm EdU Exm EAn EWGA2 H7 EdV Exn EdWA2 H7 GBG FX Ekn EGHA2 H7 EK2Tr EZJIQ",
  " EIQ EK2UE GIi Ecv EK2xo EZJZL FLA2 H7 Exp EK2dY ECsA2 H7 EK2Cs Gxq EkoA2 H7 ET8 ESu EK2xrkp G",
  "K3 GPj Gkq EWHA2 H7 GBG EK2WH EJV EK2Rc EdZ Ekr EK2QT Gda GQY EZJks GZM EK2kt EdbVH EK2VH Edbd",
  "c EK2dc EdbSv EK2Sv EZN EdbZN EK2ZN;2F00 ABUA1A2 EE- EBA EMk ERb EBX EA7 Exs EKx E5sa Evb EB3 ",
  "F4Bp Eku ESn Ekc EC0Bp EWD EVw E6sE Ekv EAoC0Bp E5N-kw EEG Exg Ekd Fb E6HP E4NL EGn Ekw EMm E6",
  "Pu ENf G6YM E5D- EM2 ESw Ekx E6Mm E5jz EAC EZI E43L E6ZS ESj E6MQ Eky E6CK Ext Ekz EE1ke EHPkb",
  " ECs6av EA7Rd E6WR EVy Ekf E4Wu Ek0 EI- E5Mi Exu EIu EjO Ekg EAb E48F Ek1 EAv EFT EMo Ety EJK ",
  "EQX E5q+ EEo Exh E6rJ ELLFT E4qk Exv ELS Exw ENp EPi E4ob Exx EA4D9 EByQXxj Exy E5Fr EZK EWE E",
  "6HR Exk Fz ECB Ex0 E5tA E6mJ Ex1 EkiBPkj E6XN EHPji EBE E6X6 EKi EQO Ex2 EAe Ek2 EdT Ex3 E5LP ",
  "E4Yl E6aJ Ekk EWI Ekl Ex4 EWF Ekm EcE EAn Fa E6GO ET1 EWG EdV E51q Ex5 E4Pa Exn EMQ E6CX Ex6 E",
  "6af E4qc EdW FX E5kF Ex7 EZLkw Ekn EGH ETr EIQ EUE E6nt E4U3 Edd Ex8 EIi ELj E6NZ Ecv Ex9 Fo E",
  "4Vy E52l EZL Exp Ede E48S E6pN EdY ECs Exq Eko E6X- EE1Mqda ET8 ESu E6sJ EBt Ekp Exrkp E5sU EM",
  "L EK3 EPj Ekq EWH EJV E5HQ ERc EdZ EVO ET2 E5GH E6O2de Ex+ Ekr EQT Eda EQY Ek3 Fs E5Nb EZM E51",
  "l EA8 E5DG Ekt E6iG EWJ Edf EPn EVH Edc ESv EZN Ex-;2FF0 AChO3DfArBHAo HqBHA+ HrBHBRAaAo HqBHB",
  "RAaA+ GGUUF GUFIEAq L+ Lr KB1Ar No LvAr Gk4;3000 AChKl CFq CGUEo A48VAu ASo5j8yAAM AChReAu CXw",
  "Au CAgDj AArFfCF BoFfCF BrA4FfCF BoA4FfCF BrH7CF BoH7CF BrBEH7CF BoBEH7CF BrA8SxCF BoA8SxCF Ad",
  "gAu A5JiAu AArJ5IiCF BoJ5IiCF BrBESxCF BoBESxCF BrBEJ5IiCF BoBEJ5IiCF BrBEAvCF BoBEAvCF AIbHY ",
  "AD7A4OYI4Au AA4OYI4Au ACKA4OYI4Au AdgAuBt AO4EcA2 F7 EBG FT Fa F5 ECE EB3 ECJ AChyBCLAu CM6CLA",
  "u CfkCLAu C5DUCLAu AAfEQBACLAu CA4BACLAu APNHY ABYZORaAu HDPyMLAu HuB1By HDPyMLAuB1By HuBvBy A",
  "AydgAu AChFFE-jMJwAM AO4EcEG EGl EI9 ABYChReAu A5zOAu Ajy4N5Au AChBIIY DyL1Kl;3041 ADhAAACAW F",
  "W FCA- F- FCAz Fz FCA9 F9 FCA6 F6 EBe EDI EKU FT Fw EMI ELA EQF EKF ENf EC7 EGe EKf EPX EKv EO",
  "m EKz Fq EJy EOg EC3 EDC ELe Fh EACKH EKH ELg EH2 EKp EBH ELL ECx EIL Fe FM EHi ECG EDl ECa EH",
  "6 ELf EGW ENk EJ1 EN8 EHV EM0 EGy EJe EOj ELt ECq EI8 EHc EIU EKt EACC1 EC1 EACHd EHd EACIh EI",
  "h ECe EMj EKe ELv EJz EACEw EEw EKy EJv EKS ECc ETs EACBe GLA;3099 AAiUGPyMLAu Ek5MLAu AUGPyML",
  "Au Ck5MLAu ADhReAu CPyReAu CIq6u5 AUGA4OU ABNAAACAW FW FCA- F- FCAz Fz FCA9 F9 FCA6 F6 EBe EDI",
  " EKU FT Fw EMI ELA EQF EKF ENf EC7 EGe EKf EPX EKv EOm EKz Fq EJy EOg EC3 EDC ELe Fh EACKH EKH",
  " ELg EH2 EKp EBH ELL ECx EIL Fe FM EHi ECG EDl ECa EH6 ELf EGW ENk EJ1 EN8 EHV EM0 EGy EJe EOj",
  " ELt ECq EI8 EHc EIU EKt EACC1 EC1 EACHd EHd EACIh EIh ECe EMj EKe ELv EJz EACEw EEw EKy EJv E",
  "KS ECc ETs EACBe GLA EGG ERC EMD EP4 CBRBA AUGyCMLAu ABNReAu CPyReAu CIqyD;3105 AEmAABD ED8 EC",
  "z EEz EDU FG ECc EBz EDE FJ FV EEW EFw ED9 E6wo EyE ETz EBm EDd F2 EBn EAW F6 F9 EP3 EEP EQ5 E",
  "El ERx EH4 EF+ EN4 EOW EM1 EA- Fz EZP EDM ELJ E5K2 Eit EA6ADBAAq EXt;3131 AAfAASE EbV EhM ESF ",
  "Ebc Fd ESG EbW ESH Ebe Ff Fg Fh EhN FO Eba ESI FJ EbX Fb ESK EbY EQ+ F- EbZ ESL FM FN FO FP EA",
  "W EIZ EC1 EXL F8 EA9 EhJ EMi EA6 EEw EhK EHE EIh EAz EhL EJv EKy EHd EQ7 EAJ F- CRA CAAg3 F4 E",
  "hI Erl Fm EhP Ern Fp Fr Eg5 EhQ Ert Eg6 ErN Eg7 ErO Eg8 F9 ErQ Eg+ ErS Eg- ErT EhA FB FC FD FE",
  " FF Erv Fw EhG Erb EhH Ere Ff Fg Fh Fi Fj Fk E4PG;3190 AChLk5tVAu EK6Au EA2Au F7Au EBGAu FTAu ",
  "EGzAu EBRAu EH5Au ERJAu FbAu EOAAu EaoAu Ec1Au EMmAu EKxAu AEmAAJ1 EPX ESR EMI EHR Ek6 EGs Etl",
  " EYc E4Oa E5kC Euk ENL E56h E4Nb FQL EP7 EN2 EyF E5kD D3AAD8 HG HJ HV DA5KB EiM EyG D3AADE DA5",
  "Lz Eh6 EHE EOh AALBMDG E6rW Fss E4XU EtD E5Rw Gs Edh E5Rv E6dK E5Rt Gx FQ2 FRu Gy ECc EDV EBn ",
  "ED8 E6Y0 EDU EyH FI E6dB FcA Ek7 E6Vi FEY FIJ Fg7 FdL Fb5 E5Rn Gz E6FF EFw;31F0 ABNAAACKw Hf H",
  "v GBH GIe GCG GH6 GNk GHV GJe GHc GCe GMj GKe GLv GJz ACIAfSE FF FG FH FI FJ FK EQ+ F- ESL FM ",
  "FN FO FP FEAW FFAW FGAW FHAW FIAW FJAW FKAW EQ+AW F-AW ESLAW FMAW FNAW FOAW FPAW EQ-Az CZQDf6B",
  "+ GA6Nk;3220 ACIDpA2 F7 EBG FT Fa F5 ECE EB3 ECJ EEG EJK EPi ENp Ek8 EyJ EMm Fo Ek9 EyK FL ESy",
  " EyM FN FO FP E6LR Ek+ EyQ FR FS FT FU E5F- EL4 Ex5 EyV AAyDpJC E5oR Ek- EyD CAgEGFLA8Av EGlFL",
  "A8Av EI9FLA8Av EJhFLA8Av EINFLA8Av EMJFLA8Av EIVFLA8Av ENBFLA8Av AwJAB AAyAgGlA2 H7 GBG HT Ha ",
  "H5 GCE GB3 GCJ EI9 GA2 H7 GBG HT Ha DfSE FF FG FH FI FJ FK EQ+ F- ESL FM FN FO FP FEAW FFAW FG",
  "AW FHAW FIAW FJAW FKAW EQ+AW F-AW ESLAW FMAW FNAW FOAW FPAW CZQDf4ZW G5lm CAfQ+Az AZQyAAM AAyD",
  "pA2 F7 EBG FT Fa F5 ECE EB3 ECJ EEG EJK EPi ENp Ek8 EyJ EMm Fo Ek9 EyK FL ESy EyM FN FO FP E6Q",
  "C EQQ EV1 E6bd E5EC Eve E4QG E5kd EL4 E43E GM ECP EFU ECK EAr Fo E5z0 E6LJ EyQ FR FS FT FU Edi",
  " CAgI9B5 GCE GB3 GCJ EJh GA2 H7 GBG HT Ha H5 GCE GB3 GCJ EIN AChFFAMAs5kr JF2 Jy9 I4O5 Itx I5l",
  "p Ko I4QK I6UV JB1 I59h I46n AAvyI C5Dk ClA A5tM5s4AB AAyBNAW F- Fz F9 F6 EBe EKU Fw ELA EKF E",
  "C7 EKf Fv Fz EJy EC3 ELe EKH EH2 EBH ECx EIL Fe FM EHi ECG EH6 ENk EHV EJe ECq EI8 EHc EIU EKt",
  " EC1 EHd EIh ECe EMj EKe ELv EJz EEw EKy EJv EKS BvZRSy6LD C4Oq DPj DOd DLO C5kA EK C6l7 C5Dx ",
  "DCt C6CN EQ C5mh Ev Ey DI+ E5 DKk Em Dqk DKr DoU EV EW EX DLr Es DqE EB DnN DpR EM C6O5 DPW DX",
  "p DUR ES C45j D7H D81 C6hL C540 D9g DMh C6DF EG C4Tu C6Fd Ev Eu C4Vq C5Q9 DRA C4XM C5RI DNW Cv",
  "C C6Ep C5Nh C6Et Ej C4VA C6Ge C4WP ClB C6Gm C5P5 E3 Dyg Ej Ee DzF Dy0 D1g Ev Ew ClC C5z6 E3 C6",
  "tk Em DvP DMO EN DNg El DLM EN DrB AChFFAMAsJ6Dj KA2 L7 KBG LT La L5 KCE KB3 KCJ KEG KOt KNG K",
  "Se Lf KPe L8 KSg KRS KSh KGl KyW KlD KyX LY AAv5Q1 CDC CEl CB7 Cul C6EX ClE EBo EZS CZP DRSy5N",
  "V G6c4 HeK G5z7 C43K CCa4OD Dx CHcAW CCq CBe C5nB ClF C5JD C4YC C5nC C6FE C56T CHcEz EDE C50e ",
  "CyZ DH C5n7 D1C DKa C6gO CHcBz C511 C48f C5os DG1 D8- CHcCz Cdj ClG Cdk DjBo ClGBo CCzBo CdkBo",
  " DjZS ClGZS CCzZS CdkZS CCzCWBn IBo Da CZT CuG C5LL CcG ECWBn IBo C6He C5+D CHcBn C528 C6IB Ch",
  "t CHcDM CYG C5qL CYGlC C6IC C5-P CHcEN Cya Ch6 CyalC CDJcd CCzcd CP7 C4Wd Cyb Dc CD2CWyZ COc C",
  "om C5L2 CCG Cdh CFg CcD CdkAF C5pm Dtk El Et Duc ClFAC C51h D2W C6FG DGX E+ DHA DZZ Chw C6rD C",
  "DMCWCz CAWCWCz AChFFAMAsIgA2 L7 KBG LT La L5 KCE KB3 KCJ KEG KOt KNG KSe Lf KPe L8 KSg KRS KSh",
  " KGl KyW KlD KyX LY Kdl K6j1 M0 Mx Mz KI9 K6fy AAvRf;4DC0 AFdAsHI43Zc1 G6K0Mm E47zJcHI4VE E6u7",
  "5G5 Eyd E42t EHI4PU EWKdm EACye E6hz EjU E6aL E5F6 EVPyf E52D FDV Eyg EkyFLHI46m E4O3 F21 EyhN",
  "K ElH E6ZI4Or EYv E5kE EVPye EGnVz EVPyi EHI4MpNp HoiPi E5j9 FBW E6Lb EVPVw E6HS EyjBPHIB- EHI",
  "yk EjR E6Bw E462 Eyl ElI E4Wl FqiBHym ElJdm E6H6vF FCY EHI6rQ E6Lg EHIx+ G4PXjV Gyn6abSj E47M ",
  "EHI5zD5yf E4Mo EHI6q2 G5JcPj Hlhv6 E48N E5tL Eyo6ir EACyi E4NKlK FVClK;A000 AAJAEgT Eyp EA- E5",
  "kR FjK GY EMC E5jJ EJc Eyq EAW Ep7 E6l9 Eyr E6l8 Eac Edn EA6 ElL Edo EA9 EPW Epz E4Vz ELf E4Vo",
  " Gg Gh Ge Gf ElM E4UW EDl E4UI FXF GD GE FWS EBp EOj E4WL FVN EM0 E4VL EQK E4XS EJ1 E4XH GK ER",
  "g E4XY GZ EOV E4XV GX GW Eys E6GB EGW Eyt E6Ft Eyu E6Fi FEN GU ECa EL5 E6Hy Gw Gx Edp E6G7 ELt",
  " Eix ElN E6H- EN8 Eyv E6H5 G0 Eyw E6II GE GF GH GG E4Uk Gl Eyx E4Uj Gh Gi Gf Gg Ga Gb ETi E4UZ",
  " Gr Gp Gq Gn Go Eyy E4Um Ge EX1 E4Ud Eyz E4Uv Ey0 E4Us Gu Gt Gy Gz Gw Gx E55K GL GG GJ GI Ey1 ",
  "E55H GE GF GC GD GO GP GM GN GU GV GQ GR GT GS Ga Gb GW GX GZ GY FO8 G9 G3 G7 G6 G4 G5 G0 G1 G",
  "y Gz FPE GC GD FO- FPA Ey2 E5O+ FPI GJ GB GF GH GG GO GK GL GN GM ElO E51z EI8 E51t Ga GO GQ F",
  "zP GV ECq EY6 E53U GV GR GT F2q G1 EKt Ey3 E50V EIU E53e Gi EHc E53W Gb GY Go Gp Ey4 E53n FGa ",
  "Gd EPR E5GS FFw ElP EHW E5Fs Ey5 EPU E5HC Gk Gl ERE E5Hg Gh Exv E5Hq Gr Gn Gp E6pX Gc ERC E6pS",
  " EEx E6pL GF GG Fn3 G6 EGG E6nv Fpr Gv EP4 E6pq Fo8 Ey6 E6p2 G3 ETs E6p0 G1 Ey7 E6p- FqA ElQ E",
  "6p8 G+ G9 E48U Gb ELh E48D F7v ESk E47t Ey8 E46E EDC Eig E5BR GQ EBA E5A9 ELL E48z F7N EKp E46",
  "+ E5Ba Gc ELg E5BS GX GU Ep0 E6g0 ELe FE E6gb EVo E6ga Ey9 E6en EC3 E6eY Ey+ E6jh Gf Gg Ey- E6",
  "hl EBH EGz E6fb EH2 E6fK Fjo Gs EKH EzA E6jn EWL E46V GW EsA E46U GT GR GS GI GJ EGh E46H Gd G",
  "b Gc GZ Ga Ehk E46Y GM EsC E46L Gg Gh Er- E46e Gf EzB E55u Gv ElR E55s Gr Gq Gh Gi EVk ElS E55",
  "z G0 ElT E55y Gn Edq E55j G5 G6 Edr E552 G4 G3 FPc Gd GW Gb GZ Ga GX GY GQ GS Ehr E5PP Gj Gi G",
  "f Gg Ge GV GT GU Gk F7+ F8A EIL E577 Gu Go Gp F4+ ECx E543 F-I GG GH EFT E59k EHi E59b F6R EIM",
  " E56J EzC E5-O EIe E5-J GL GK FOd Ge ElU E5Oc Gb GZ Ga GT GV Eug E5OS Gl Gj Gk Gh Gf Gg GY GW ",
  "GX Gp Gq Gi Gm Go Gn Gv Gw Gr Gs Gu Gt Fta Ge EFX Eds E5s+ G- EzD E5s9 GA GI ECu ElV E5uU GV G",
  "S GT GC GK ELM E5t9 Fsv EGk E5sn Fua Gb EJ0 E5uW GY GX Gj Gk EiR E5uh Gi EzE E5Kt Gu EKT E5Kn ",
  "Gg Gh Ge Gf FJA GC EDI EWM E5Ln Go Gl Gm EzF E5LK ENf E5LC FJh Gj EQF EzG E5Lw Gx EMI E5Lp Gv ",
  "Edt EzH E5oe EKU EvB E5oL GI GK Fm0 FnA EBe EzI E5p9 G6 ElW E5pS GW EKF E5pO EUH E5nn ELA E5nV",
  " Edu E5qJ EKw E5p+ FqF ELl E5Jw Gx EsK E5Jv Gt Gu Gn Go EVC E5Jm G1 G2 EzJ E5J0 Gy Gz EsL EzK ",
  "E5Jr Gs Ehl E5Jq G6 G7 EsJ E5J3 G5 G4 F0z Gy Gh Gi Gf Gg G6 G4 G5 G1 G2 EM9 E500 Gx Gv Gw G+ G",
  "- G3 G7 G9 G8 EzL E5Rg Ga Gf Gd Ge Gb Gc GV GW GT GU Gl Gm EzM E5Rk Gi Gj Gh EzN E5RZ GX GY F6",
  "6 G4 G5 Gb Gc EEk E56Z F7W GX GV GN GO ETm EzO E56g EzP E56e EzQ E5OF EX7 EUD E5M8 ECG E5My FR",
  "G GH GE GF EY1 E5Qz EJe E5P7 FNi EHV E5Nc E6q- EzR EEw EzS E6sR EzT E6sQ GD EKS E6r7 GV EJv E6",
  "rS FxT GU EPX E6xQ GM GK GL Fwd Gf EGe E6wZ Fxi Gg Gh EzU E6xa EOg E6xZ Fwn EKq E6wk Fxk Gl EO",
  "m EzV E6xj EzW E6xt Gu EyG E6xq Gs Gr E4oQ GU Ebp EzX E4oG GK GE GF EOM E4Ym EEv Eck E43t Gs E",
  "zY E43O GU EOc E43C FZQ ERD E4ZL ElX E435 EhY EYq E431 Gw EzZ E44D Eza Fb E44C GA E6x6 G7 ExT ",
  "E6x5 Ezc E6x4 G2 G3 Gx Gy EdR E6xw G9 ExV E6x8 G1 ExU E6x0 FyD ExS E6yA GC GB GJ GK GE GG GI G",
  "H E5-8 G9 G3 G7 G6 G4 G5 Gy Gz ElY E5-w E6AD GC E5-- G+ G2 G0 E6AH GA Ezd E6AG GF GM GN GI GJ ",
  "GL GK FXs EB5 EKf E6Xo GS GP GR Eij E6Pl EC7 Eze E6bm Gk Gl ElZ E6Yy EJy E6Yq FUi EKz E6UT Fbz",
  " G1 EKv E6bn Gw Edv E6c- FdA FcB G5 G+ G6 FZy Gz EkT E6Zx Gw Gu Gv Gn Go EHh E6Zm G1 G2 EiQ E6",
  "Z0 Gr ExR E6Zq G4 G6 EkS E6Z3 G- FaA FZ7 G8 G+ G9 Fws Gt EKs E6wr G6 G4 G5 G2 G3 Ehj E6w1 Gw G",
  "x EMY E6wv G+ G- Ehh E6w7 G9 G8 FxF GG GB GC GE GD Ezf E4nB EFS E4Za Fn2 G3 G0 G1 Gu Gv EPS E4",
  "nr GS GT EKP E4nM G7 Ebx E4n4 G6 G5 FoC GD Fn+ G- FoB GA E6Mx ELK E6M7 G6 G2 G3 Ezg E6M1 Gz G0",
  " Ezh E6My G- FNA FM5 G8 G+ G9 FNF GG GB GC GE GD E59s Gt Eih E59r G1 Gz G0 Gx Gy Gu Gv G7 G8 G",
  "2 G4 G6 G5 F+B GC F99 G+ F+A F9- Ezi E6V0 EEp E6Vu FW2 G0 G1 Gf Gj EPH Ezj Fk E6WE EG7 E6V7 FW",
  "5 G7 EM- E6W3 G4 Ezl E6XD GE Ezm E6XA GC GB Edf E6Kn ECe Ekg E6Ne Gc Gd FMs Gw EJz E6Mp FLi EL",
  "v E6LO FNk Gm EKe E6Nf Gi Gh Gy Gz Etq E6Nv Gx Gw E5lE GF ESR E5lD Fk- FlA Fk9 G+ Flt Gu Gr Gs",
  " ESb E5lg EPY E5le Gz G1 ETu E5lv Gy Gx G6 G7 G2 G3 G5 G4 E6Iy Gz EYA E6Ix Gu Gv Gs Gt FJJ GK ",
  "Ehu E6JI Ezn E6I4 Ebo E6I2 FJP GR EX- E6JL GN GM Ge Gg GU Gb Gd Gc E5lM GN Etf E5lL GJ GK Ezo ",
  "E5lI GT GR GS GP GQ Ete E5lO Ezp E5lX Etd E5lU GW GV GZ Ga Ezq E5lY F8Q GR EWN E58P GN GO GK G",
  "M GX GW GT GU Ezr E58S Gc Ela E58Y Gb Ga Gh Gi Gd Ge Gg Gf Ezs E5-g ENh Ezt E5-b Gc GZ Ga Gr G",
  "p Gq Gl Gm EQ4 Ezu E5-t Gu Ehc E5-s E6s1 G2 EMz E6sz Gx Gy Gv Gw FtA Fs- G7 G8 Er6 E6s4 FtR GT",
  " GH GO GQ GP Elb E6uo EAJ E6un Gi Gj Ezv E6uh FvY GZ GW Ezw EXJ E6u+ EIh E6u4 Eaw E6vf EHd E6v",
  "a Gc Gb Gl Gm Egv E6vi Gk Gj;A490 AAJA1zn EFX EzH Ft Fb EkT EzK FG EI8 EzL FE Eyz F3 EIh ElN E",
  "zM Ey9 EDI EzV FZ FB ERg EzJ Fu EKH ElL Ezp FU Eyw F2 Elb Ey7 Ezm Ey6 EGe EPY Ezd Fq FF Fo EKS",
  " ELg Ezl FD Fa FY FX FN Fi FW Fj EKP Ezc Ey1 ELA;A4D0 AGoAADl ECa EGF EDC EC3 EFs EDI EBe EFW ",
  "EEq Fv EFS EN3 EI7 EM+ ECq Fx Fu F7 EKs EGe EEk ECG ENA ERB EHW EEw Fp EC1 EG0 EAW EIZ EA9 EQ7",
  " EA- F6 Fz EKd Elc EHE ECLVcLe GCxLt GVctv IOj ICx I5k2 CDHFq EGUEo ABBAEHR E5Cu Ebi Fv E6rO E",
  "RF E4VT EVW Edw Ezx E50m Ezy ETx ESQ EVX EYF E47a Gd Ebj EX+ EVa Eld ETr Ebm EYC Ebw Er5 EVb E",
  "ZU EVZ Ehe Ezz EYE EhT Fb Er8 EA- EFg EH6 Ez0 EKy E6rm EGW E4VU ELf Ele Ez1 E50p Ez2 EPR ERC E",
  "Le ETv E47i Ge EFX EMj ELh ElR EKf EVV EPX Ehi Ebp ESR EWN EAJ EKU Ez3 EKT EI8 FL ENh EAW EH4 ",
  "E56X ECG Ez4 EEw E6q0 ECa EHH EDl EYb EZT E5pZ Ez5 EgO EHW EGG EC3 EFs EGt E47b ECu Fe EDC EVk",
  " EC7 EEp EGe EKs EEv Fq Ez6 EC1 EBe EVM EZV EDI ECq Fx EFV EGs E6CR EYP FH E6r6 EYJ E4VV Ez7 E",
  "lf Ez8 E50t Ez9 EiF Ez+ EVd EiI E47k Gg EVe EtP Ez- E0A EYO EiD E0B E6w0 Eh7 E0C FD Eb9 EYM El",
  "g E5LA Eh+ EiA E5-k EAz EQ9 ENk E0E EPW E6sO EN8 E4VW EJ1 Elh E0F E50u Eli ERE ETs EKH Ehm E47",
  "m Gh EJ0 EKe ELg Edr EKv EM- EOm Ehh FY ETu Ela EHd EKw Elj EMI EHc EIe Ehc EA6 EFL E0G EJe El",
  "B EKS Ei1 ELt E0H EOj Elk Edx E50r E0I E5JK EPU F4 EBH EK- E0J E47f ELM EJz ELL ElT EJy EPH EO",
  "g Ehj EOc EPY Ezr EIh EKF Ell ENf EKt EHi EQ4 EA9 EF+ E0K EHV E0L EJv E6rR EGy Edy EM0 Edz E0M",
  " E5pb F0l Ed0 E5JG EOf EMD EH2 FI EZW E47c EGk ELv EKp Edq EKz EG7 EKq EMY ERD EOb ER5 EMi ELA",
  " Elm Fn EQF E5JW EIU FM Ehd ELJ Ed1 CFq CGUEo CJCAu CAEZXHW GBe GYO DM5F4 FnM E6gp Es2 E4UF Eb",
  "1 ETt EcQ E48y E5p5 E6hT E48o E5ld DQDj EA2 F7 EBG FT Fa F5 ECE EB3 ECJ DEZXCq GLL;A640 AAtAFA",
  "A0N DCAA0N DFAAdK DCAAdK DFAAD7R4 DCAAD7R4 DFAAGK DCAAGK DFAAkW DCAAkW DFAAkXU2 DCAAkXU2 DFAA0",
  "OEu DCAA0OEu DFAAHTZY DCAAHTZY DFAAPJADO5ZY DCAAPJADO5ZY DFAAMZQx DCAAMZQx DFAAD7Hd DCAAD7Hd D",
  "FAAMZAW DCAAMZAW DFAAHFE7Is DCAAHFE7Is DFAA0PIs DCAA0PIs DFAAMZHFE7Is DCAAMZHFE7Is DFAAVT DCAA",
  "VT DFAAD7NW DCAAD7NW DFAANUKp DCAANUKp DFAANUKb DCAANUKb DFAANULs DCAANULs DFAAd2A6 DCAAd2A6 D",
  "FAA0QA6 DCAA0QA6 DFAAA4d2A6 DCAAA4d2A6 DA53MA6 BiAt6qC EEGTbAB ECMTbAB FtTbAB A6YAG5 AAiAtAAfq",
  "MC GA- HJ Hz GP1AB HJ GNUAB GEu ERI E0R BtRI C0R CAFAAlo DCAAlo DFAA0S DCAA0S DFAA0T DCAA0T DF",
  "AAkU DCAAkU DFAA0U DCAA0U DFAAH2ADBRBX DCAAH2ADBRBX DFAAYK DCAAYK DFAA0V DCAA0V DFAA0W DCAA0W ",
  "DFAA0X DCAA0X DFAAiN DCAAiN DFAATy DCAATy DFAAA4A6 DCAAA4A6 DFAAOKA6 DCAAOKA6 ABCAAAtP1AB GNUA",
  "B AAiAtAAP0 GMZA9 BZAAAW EBe EAz EKw EHR EX+ Elp EA6 ENh EA- ECu Fa Eb+ E0Y FZ Elq ETt Ed3 Elr",
  " ECz Ed4 EHc Eb8 EKf E0a Els EdS EUH E0b EIe E0c Ed5 EM- Elt EC1 Elu E0d Elv EZU Elw E0e Elx E",
  "RF ETx EKe EJ0 EI8 FL Ely EVR EU4 E0f EZV EEk EPH Elz ERE El0 EEw ECx EFX EGW Ed6 EKF E0g Ed7 ",
  "EPK ECq ELe EKU Ft EWO ETc EZT EEG E0h Fi E5FY FpV GD DiAu5pP G6jZ C0j CGUEo CId CFq COT CJCAu",
  ";A700 ABCAAQZCLQwip IOZip IQw0k IOZ0k IQwX- IOZX- IQwKe IOZKe EaXHPCLB7 ECPHPCLB7 ETXHPCLB7 EC",
  "KHPCLB7 EaYHPCLB7 FXHPQaCLB7 ECPHPQaCLB7 ETXHPQaCLB7 ECKHPQaCLB7 EaYHPQaCLB7 FXQaCLB7 ECPQaCLB",
  "7 ETXQaCLB7 ECKQaCLB7 EaYQaCLB7 EBABYB7 GMk GCvB7 FvAoH7Ff EIRBlAe H4Ae GJsAu GFRJsAu ECKFRJsA",
  "u EXpAaCPCL JKCL AAHAFAAd8B6 DCAAd8B6 DFAAd8HA DCAAd8HA DFAAXI DCAAXI DFAA0l DCAA0l DFAA0m DCA",
  "A0m DFAAd9 DCAAd9 DFAAd9ADFq DCAAd9ADFq DAACAFEz IBn DFAADw DCAADw DFAAcY DCAAcY DFAAEl DCAAEl",
  " DFAAVm DCAAVm DFAAVmADCvB7 DCAAVmADCvB7 DFAAOk DCAAOk DFAAD7D2ADBA DCAAD7D2ADBA DFAADJADBM DC",
  "AADJADBM DFAADJADC+BM DCAADJADC+BM DFAADJADBMAaC+BM DCAADJADBMAaC+BM DFAAUqBz DCAAUqBz DFAABzA",
  "DCPBM DCAABzADCPBM DFAAA6ADCsBMKa DCAAA6ADCsBMKa DFAAA6ADJd DCAAA6ADJd DFAAGs DCAAGs DFAAD8ADB",
  "MNKHe DCAAD8ADBMNKHe DFAAD8ADZZ DCAAD8ADZZ DFAAD8AD0nFr DCAAD8AD0nFr DFAAFwADBMNKHe DCAAFwADBM",
  "NKHe DFAAFwADC+BM DCAAFwADC+BM DFAABmYf DCAABmYf DFAAd+Yf DCAAd+Yf DFAADMADC+BM DCAADMADC+BM D",
  "FAAlQ DCAAlQ DFAA0oDd DCAA0oDd DFAARvADBM DCAARvADBM DFAARvADBMNKHe DCAARvADBMNKHe DFAA0p DCAA",
  "0p DFAAN0 DCAAN0 DFAAVf DCAAVf DFAA0q DCAA0q ABCAAcX AAHACAA5BN GO6 G53N H-C Gd+ DAACAFd+ DCAA",
  "Za GRh DFAALODU DCAALODU DFAALOEz DCAALOEz DFAALODE GCjLODE DCAACjLODE DFAACjBz DCAACjBz DFAAL",
  "OBm DCAALOBm DFAALOBn DCAALOBn DFAALODG DCAALODG ABCAACKEOFH EId EE1H-AB AAHAFAA0r DCAA0r DFAA",
  "CjDV DCAABzADHOBXAaPG DA6XfBA DFAACcADHe DCAACcADHe DFAAD2ADB7 DCAAD2ADB7 KJEBX HVADJEBX DFAAB",
  "DADZZ DCAABDADZZ DFAAEzADBM DCAAEzADBM DFAAWPIZ DCAAWPIZ DFAAWPHE DCAAWPHE DFAAWPKd DCAAWPKd D",
  "FAADEADMGBM DCAADEADMGBM DFAADJADMGBM DCAADJADMGBM DFAACcADMGBM DCAACcADMGBM DFAABmADMGBM DCAA",
  "BmADMGBM DFAABnADMGBM DCAABnADMGBM DFAADVADBX H7C0A9 GAbDE GBzADPG GACAFA- DAACAFFw DFAACjDJ J",
  "G GEWADQu GJu GLY DCAALY DFAAEu DCAAEu DFAAAzADBM DCAAAzADBM DFAAIHAW DCAAIHAW DFAAIHA- DCAAIH",
  "A- DFAAIHAz DCAAIHAz DFAAAnl1A6 DCAAAnl1A6 DFAA0sEN DCAA0sEN DFAAD2ADJEBX GBnADBX GDdADJEBX HU",
  "ADE1BMKa DCAADUADE1BMKa DFAABnADE1BMKa DCAABnADE1BMKa;A7D0 AAHAFAAHFLODE DCAAHFLODE;A7D3 AAHAC",
  "AAA4Rv;A7D5 AAHACAAA4aS DFAABR0tBn DCAABR0tBn DFAA0uBn DCAA0uBn;A7F2 ABCAAAFD2 GEz GFw AAHAFAA",
  "D7ByDV DCAAD7ByDV CWQAALdA- ABCAAAFDVADBM FCAjHE AAHAAACAFCjCz CWQAAD7Ez ID8 GFRCz GA-d- GHbCz",
  " AHCHDAAAW H- FB5Bf FAAz H9 H6 FB0v FAKF GOi GNf Gtc FBGP FAOc GPS HY G5k6 Gh5 Gb- Ghk G0w GBH",
  " GK- GLL G0J GHi GLt GPT GOj G0H GKt GJz GLM Gzg GJy He FSABAW J- Jz J9 IGs EeAYW HX G0x G5y- ",
  "EABHl0v;A830 ADAEeDPA2Ht IBy GBGMx GA2VG IHz GBGa2 EHtAu El2Au ESCAu E6I7Au;A840 AGBAABe EFW E",
  "DI EEk Fv EFS EEq EFV EC3 EFs EDC ECx Fa EGF EDl ECq EI7 EM+ EN3 EEw EKs EGe EACAW EC1 Fe Fu E",
  "Ep EC7 FG EAW F- Fz F9 F6 ELI ENA EHW EVC EHR CEAAAEw GC1 CAAGa EHS EGh EHB FlC1 E6pgEp EPyCG ",
  "E4PvHW CEAAACe C6bpAACe CAAIS CEQJVAu CA4JVAu DuMh EA4Mh;A880 AELABGP EHy DAAW EDw EA- EET EAz",
  " EEs EB+Bm GHk GBz GIK EA9 EHR EEP EA6 EGs EEl EBe EFW EDI EG0 EEk Fv EFS EEq EID EFV EGa EHS ",
  "EGh EHj FB EC3 EFs EDC EGt ECx Fa EGF EDl EHH ECq F1 Fe Fu EGG EEp EHh EC7 FG EJg CDzAB5MX CAS",
  "ABDw GA- GET GAz GEs GB+Bm IHk IBz IIK GA9 GHR GEP GA6 GGs GEl DBHX EIS;A8CE AELI6 CA4I6 DQDj ",
  "EA2 F7 EBG FT Fa F5 ECE EB3 ECJ;A8E0 AAiBwAQDj GA2 H7 GBG HT Ha H5 GCE GB3 GCJ FAAW Hz GBe GCx",
  " Ha He GRC FBMg ABwABgZIS EISHX EA4ISHX EISA7 GBG GMg E6H7 CWMRA CQA Cl3 CABDQ C5koN2 CAAOk DS",
  "ABOk AGcFXAQDj GA2 H7 GBG HT Ha H5 GCE GB3 GCJ FABe GFW GDI GEk GC7 GEp GGe GFV GC3 G0y GCx Ha",
  " GGF GCq GDC Hl GCe H1 Hu GEw GFs GCG GGG GEv GAW GHE GA- GGs FSKd GA9 Hz GHR GA6 ECL0z H0 I0z",
  " EABh8 G6W+ AH8AABe EDI EEk EC3 EDC ECx Fa EDl ECq EEv Fq EFV EC7 Fe Fu F1 EEw ECG EYb EZV EVk",
  " E5-h EAW DSABA- Hz H9 GEP GA6 GEl GQ7 Gl4 CDzABLJ GCc GBm GDV CHX;A95F AH8HsAu AAfCZ6gf E01 F",
  "2 F3 Ebe E04 EhP E6L7 Ebf Fg E6L5 Ero Ebh E6Lx Erq Fs E51Z EhQ E6Fr Gk Eru E6Zh E5jT GN E6Zd G",
  "j FFM E5OE E6Zl;A980 ADqAB6Dy E05 E5sK E6rk DAAW F-5m+ G EET EAz ECa4ZM EEk06 I6Ki EA9 EEP EA6",
  " EBe GSW GOq EDI GOq EEk Fv GOq Fq EFVOq EEqSV EFV EGa GSV Fh GSV ECxOq F3 GOq EDC GSV ECx Fa ",
  "GOq EDl GOq ECq F1 Fe G4NQ Fu EEw EC7Oq GSV G FG DB056fE DSAB6ed HhI G07 I5z8 GcO I50B GYY G48",
  "H53Z Gim CDzAB5nW G6En Guo C6Do CAr08 Do08 CON4OJ E5yP FuO EuS E6Dn E5tT FuR EYZ GYZ E09 CCjON",
  "09;A9CF ADq6Dr CAQDj EA2 F7 EBG FT Fa F5 ECE EB3 ECJ;A9DE ADqON6gu6jd E5kZ ABSAAG6G0 GFS GID G",
  "HB HH DBG6l5 CBCAAG60+ CAAA5J7FV IHW IDI IG0 IEq IID IGh IHj JB D5J7AQDj IA2 J7 IBG JT Ja J5 I",
  "CE IB3 ICJ DAA5J7Jg IDC IGt IDl IHH;AA00 AEHAAAW F- Fz F9 EEP EA6 EBe EFW EDI EG0 E57T EEk EFS",
  " E4nU EEq EID E57d EWR E57c EC3 EFs EDC EGt E5-B ECx EGh ECa E6G9 EGF EDl EHH E53E ECq ETi EC1",
  " Fe Fu EGG EHh EC7 FG DSABDw GA- GET GQ5 GAz GHE GA6 GEP Hl GKd CDzABC1 He Hu GEw;AA40 AEHAAA3",
  "DJ HE GLJ CDzABA3LJ CAAA3yE GDG GCc GD8 Hk GBm Hz GeB CDzABA3Cz IDV;AA50 AEHAQDj EA2 F7 EBG FT",
  " Fa F5 ECE EB3 ECJ;AA5C AEHDHUI EI6 EA4I6 EFxI6 ABSAAKGDI GEv GFS GEq GID GFV GGa GHS GGh GHj ",
  "GGt GCx H7 HG GRB GHW CBCAAKG0+ CAAKGNA GGe GCe CSzKGt+ G6I0 G5Ox CAMVQJs GA2 H7 DAVQCe DB6D2L",
  "uCL EA5J7QD JE DATybDFS IEp AA5ExAACKKF HPKF HKOi HPOi HK0- HP0- HKNf HPNf HKTm HPTm HKOc HPOc",
  " HKPS HPPS HKJy HPJy HKQ4 HPQ4 HKLL HPLL HKBH HPBH HKK- HPK- HKHi HPHi HKOj HPOj HKLt HPLt HKP",
  "T HPPT HKPU HPPU HKKt HPKt HKIh HPIh HKJz HPJz HKLM HPLM HKP4 HPP4 HKJe HPJe HKA6 HPA6 EKucJ E",
  "ASDw GA- GKd GAz H9 H6 EKu5nw EASeC G6lV GVg Gt6 GOk GH4 GP7 ECLKuVF I1A IK- I6Yn;AADB AA5ExAM",
  "qg G1A Gil GJe5Pw Gl6l6 AEZEaAAA9 H6 GFS HV GGa GHS GGh GHj HB GEp GHh FSABET Js Isi IEl I4LP ",
  "E4nG FNT5n4 Ega EAEZbAu EKcZbAu EASABHy EHX;AB01 AAlAE6jE EtT Eic E6jC EtS Eb-;AB09 AAlAE46Q G",
  "P E1B E46O GN E0w;AB11 AAlAEtg Fj E5Bn Eti ER4 Eth;AB20 AAlAE4Yu G0 Gy Gv Gx Gw Gz;AB28 AAlAET",
  "i Ey0 Fx E4UY Gc EX1 Eyy;AB30 AAHACAAPxE0 GAW6Ld Gl7A9 GPxA9 GA9ADZZ GxIEz GAbDEADQu GBzADFRjC",
  "Bn KA4BRC5 KBRCi GCzADQu HcADQu GOWADQu Gl7A6 KADBM GC0A6ADBM GFRHE GCjHEADBM MCvBM IA61C MADB",
  "M G6adBm DAACAFBmADAoLH DCAABmY41D GA4Bm GBmADQu GA4BmADQu HbBm KADCi Gp9LW GAzADE1AoLH IB7ADE",
  "1AoLH GeD GCjeD GAzADArBX GJu IADCKAoCi Nr1E GD9ADCKAoCi LsArLH QAaCKAoCi RD1E HkADE1AoLH ABCF",
  "4ADFRF4 CAAACXI GBzADFRjCBn KBRC5 GAzADArBX AAHACAA6O-Qx GMZA9 GC0HE Gyr GFRE0 BkAAACAFEu BHAC",
  "AAPwIqADHOBX GaVIqADHOBX GCjBmADBRC5 ABCAAACCjEN FrII FoII;AB70 ABrACAAAW H9 H- H6 Hz GDM HI G",
  "Be GQF GKT GNf GMI GsX GCG GHV H6 GJe GNk GaR GCu GGk GFX GLM GJ0 GsY GCq GIU H8 GKt GHc GCx G",
  "hr Hs GIM HL GHi GIe Ght GsZ Ha Hb Ghu Hv Gsc GC7 GBn GKz Hf GJy GKv Ghw GDC GC3 GKp GH2 GLh H",
  "e HL Hg Gsd Gb6 Ghx Hy Hz H0 H1 Gse GI7 GNW GTw Gb0 Hz Gsf GEw GJv GKy HS GPW Gsg GC1 AEZEaAA1",
  "F Gil GcI GlO GCa Hx G4nZ Gl8 G5n1 G1G G6f4 Hqx GOZ G5RB GQ9 GA- G6FJ G4QA G5K9 Hk4 G6KV GDl G",
  "X6 G475 G5KX G47l HVR G1FS0 GcIS0 GlOS0 GCaS0 HxS0 Gl8S0 G1GS0 GA-S0 FSAB6CF I5jx I4OG I6uM JY",
  "v Jlr I4nI Il9 E4nH EO61H E4O61H;ABF0 AEZEaAQDj GA2 H7 GBG HT Ha H5 GCE GB3 GCJ;D7B0 AAfDg6AZ ",
  "GU Fuw Gx Gy Fkc GZ FvJ GM E5D1 G3 G2 G5 FSB GC GE GD FR+ FSF GG FR8 E4PB GC;D7CB AAfCO57s Gq ",
  "EbW E6Zk E01 F2 E6gg E03 E6ge Gh E04 E6Ly FZf FLz G4 G3 G+ G9 ErM E51U GX E6Ze E51V GS Eg7 E6F",
  "o Gl EbX Eg8 F9 ErP FV E6Xi FZg Gi FXk EhC ErW FX FY E6Dw Gv FuS GR E4oI GJ EbZ E6FN GO;F900 A",
  "ALAP5bw Gx Gy Gz G0 G1 G2 G3 G4 G5 G6 G7 G8 G9 G+ G- FcA GB GC GD GE GF GG GH GI GJ GK GL GM G",
  "N GO GP GQ GR GS GT GU GV GW GX GY GZ Ga Gb Gc Gd Ge Gf Gg Gh Gi Gj Gk Gl Gm Gn Go Gp Gq Gr Gs",
  " Gt Gu Gv Gw Gx Gy Gz G0 G1 G2 G3 G4 G5 G6 G7 G8 G9 G+ G- FdA GB GC GD GE GF GG GH GI GJ GK GL",
  " GM GN GO GP GQ GR GS GT GU GV GW GX GY GZ Ga Gb Gc Gd Ge Gf Gg Gh Gi Gj Gk Gl Gm Gn Go Gp Gq ",
  "Gr Gs Gt Gu Gv Gw Gx Gy Gz G0 G1 G2 G3 G4 G5 G6 G7 G8 G9 G+ G- FeA GB GC GD GE GF GG GH GI GJ ",
  "GK GL GM GN GO GP GQ GR GS GT GU GV GW GX GY GZ Ga Gb Gc Gd Ge Gf Gg Gh Gi Gj Gk Gl Gm Gn Go G",
  "p Gq Gr Gs Gt Gu Gv Gw Gx Gy Gz G0 G1 G2 G3 G4 G5 G6 G7 G8 G9 G+ G- FfA GB GC GD GE GF GG GH G",
  "I GJ GK GL GM GN GO GP GQ GR GS GT GU GV GW GX GY GZ Ga Gb Gc Gd Ge Gf Gg Gh Gi Gj Gk Gl Gm Gn",
  " Go Gp Gq Gr Gs Gt Gu Gv Gw Gx Gy Gz G0 G1 G2 G3 G4 G5 G6 G7 G8 G9 G+ G- FgA GB GC GD GE GF GG",
  " GH GI GJ GK GL GM GN GO GP GQ GR GS GT GU GV GW GX GY GZ Ga Gb Gc Gd Ge Gf Gg Gh Gi Gj Gk Gl ",
  "Gm Gn Go Gp Gq Gr Gs Gt Gu Gv Gw Gx Gy Gz G0 G1 G2 G3 G4 G5 G6 G7 G8 G9 G+ G- FhA GB GC GD GE ",
  "GF GG GH GI GJ GK GL GM GN GO GP GQ GR GS GT GU GV GW GX GY GZ Ga Gb Gc Gd;FA70 AALAP5he Gf Gg",
  " Gh Gi Gj Gk Gl Gm Gn Go Gp Gq Gr Gs Gt Gu Gv Gw Gx Gy Gz G0 G1 G2 G3 G4 G5 G6 G7 G8 G9 G+ G- ",
  "FiA GB GC GD GE GF GG GH GI GJ GK GL GM GN GO GP GQ GR GS GT GU GV GW GX GY GZ Ga Gb Gc Gd Ge ",
  "Gf Gg Gh Gi Gj Gk Gl Gm Gn Go Gp Gq Gr Gs Gt Gu Gv Gw Gx Gy Gz G0 G1 G2 G3 G4 G5 G6 G7 G8 G9 G",
  "+ G- FjA GB GC GD GE GF GG GH;FB00 AAHACAj5GD GPR G5Ge IE IF GCsBnDG Gk7;FB13 ADZACAjPKae IU3 ",
  "Ifw Gfyae GPKfx;FB1D ACQAAP5ADpU CJf5lj6nz CAjanP5P5ah DAjJOd EOrB6 Gal GHV GGf Gam GA3La GN1 ",
  "Gf+ EjJBkAB EIaADIaBA IakBA IKQAaIaBA MakBA EB6ADah Ji If7 EU6ADKQ EMbADKQ EalADKQ EHVADf7 EU5",
  "ADKQ ENXADKQ;FB38 ACQAATcADKQ EP5ADKQ EA3GfADKQ EGfADKQ EamADKQ;FB3E ACQAALaADKQ;FB40 ACQAAF0A",
  "DKQ EMcADKQ;FB43 ACQAAA3GyADKQ EGyADKQ;FB46 ACQAAf8ADKQ F9ADKQ EN1ADKQ EIaADKQ Ef+ADKQ EU5ADf6",
  " F6ADaj EGfADaj FyADaj DjB6am AAIAAB6aqBOAR IA3AR EXUBOAR GA3AR GBbAR GDRAR EQzBOAR GA3AR GBbA",
  "R GDRAR EXWBOAR GA3AR GBbAR GDRAR FTBOAR GA3AR GBbAR GDRAR FVBOAR GA3AR GBbAR GDRAR EU9BOAR GA",
  "3AR GBbAR GDRAR EXaBOAR GA3AR GBbAR GDRAR FbBOAR GA3AR GBbAR GDRAR FYBOAR GA3AR GBbAR GDRAR FX",
  "BOAR GA3AR GBbAR GDRAR ETeBOAR GA3AR GBbAR GDRAR EXZBOAR GA3AR GBbAR GDRAR EgEBOAR GA3AR FDBOA",
  "R GA3AR FFBOAR GA3AR FCBOAR GA3AR FHBOAR GA3AR FGBOAR GA3AR EOeBOAR GA3AR GBbAR GDRAR EP6BOAR ",
  "GA3AR GBbAR GDRAR EXdBOAR GA3AR GBbAR GDRAR FcBOAR GA3AR GBbAR GDRAR EFKXSBOAR IA3AR EXeBOAR G",
  "A3AR GBbAR GDRAR EGjADBgAqBOAR MA3AR GSABOAR IA3AR IBbAR IDRAR GXfBOAR IA3AR IBbAR IDRAR EBgQ1",
  "BOAR IA3AR JDESAqBOAR OA3AR DMBAAq H+ EA7CRAq J+ EBGCRAq J+ IEdC6Aq N+ FTCRAq J+ EA4BYB7A+ F7C",
  "RSBAq L+ ECi EACHfAq J+ EaqAq;FBD3 AAIAALJBOAR GA3AR GBbAR GDRAR EAzBOAR GA3AR EHEBOAR GA3AR F",
  "dBOAR GA3AR EAzADESAqBOAR EMDBOAR GA3AR EPOHEBOAR IA3AR HdBOAR IA3AR EA9BOAR GA3AR GBbAR GDRAR",
  " EZc1IPOB6FEBbAR ODRAR DjBgADESAqADB6BOAR QA3AR OIZBOAR QA3AR OHQBOAR QA3AR OAzBOAR QA3AR OHEB",
  "OAR QA3AR PdBOAR QA3AR OA9BOAR QA3AR QBbAR EZcPOBgADESAqADB6FEBOAR WA3AR WBbAR DANbBgBOAR IA3A",
  "R IBbAR IDRAR DjBgADESAqADDFBOAR OCnBOAR OBcBOAR P6FEBOAR PgBOAR EG-ADDFBOAR ICnBOAR IFJBOAR I",
  "BcBOAR J6FEBOAR JgBOAR FNADDFBOAR ICnBOAR IFJBOAR IBcBOAR J6FEBOAR JgBOAR EKRADDFBOAR IBcBOAR ",
  "J6FEBOAR JgBOAR EDFADCnBOAR IBcBOAR ECnADDFBOAR IBcBOAR EFJADDFBOAR ICnBOAR IBcBOAR EGZADDFBOA",
  "R ICnBOAR IFJBOAR IBcBOAR EITADCnBOAR IBcBOAR FfADDFBOAR ICnBOAR IFJBOAR IBcBOAR EHfADCnBOAR I",
  "BcBOAR ENaADBcBOAR EHAADDFBOAR IBcBOAR EJxADDFBOAR IBcBOAR EHxADDFBOAR ICnBOAR IFJBOAR IBcBOAR",
  " J6FEBOAR JgBOAR EICADCnBOAR IBcBOAR J6FEBOAR JgBOAR EGfADB6BOAR IDFBOAR ICnBOAR IFJBOAR IErBO",
  "AR IBcBOAR J6FEBOAR JgBOAR EErADDFBOAR ICnBOAR IFJBOAR IBcBOAR J6FEBOAR JgBOAR EBcADDFBOAR ICn",
  "BOAR IFJBOAR IBcBOAR J6FEBOAR JgBOAR EFKADDFBOAR ICnBOAR IFJBOAR IBcBOAR J6FEBOAR JgBOAR EGjAD",
  "DFBOAR IBcBOAR J6FEBOAR JgBOAR EBgADDFBOAR ICnBOAR IFJBOAR IBcBOAR J6FEBOAR JgBOAR ER+ADJTB6BO",
  "AR EHwADJTB6BOAR EB6FEADJTB6BOAR ENcADXQBOAR JRBOAR INYBOAR IPLBOAR INZBOAR IJTB6BOAR EBgADESA",
  "qADHwA3AR OMdA3AR OBcA3AR OFKA3AR OB6FEA3AR PgA3AR EG-ADHwA3AR IMdA3AR IBcA3AR IFKA3AR IB6FEA3",
  "AR JgA3AR FNADHwA3AR IMdA3AR IBcA3AR IFKA3AR IB6FEA3AR JgA3AR EKRADHwA3AR IMdA3AR IBcA3AR IFKA",
  "3AR IB6FEA3AR JgA3AR EHxADB6FEA3AR JgA3AR EICADB6FEA3AR JgA3AR EGfADB6A3AR IErA3AR IBcA3AR J6F",
  "EA3AR JgA3AR EErADBcA3AR J6FEA3AR JgA3AR EBcADB6A3AR JcA3AR EFKADHwA3AR IMdA3AR IBcA3AR IFKA3A",
  "R IB6FEA3AR JgA3AR EB6FEADJTB6A3AR FgADHwA3AR IMdA3AR IBcA3AR IFKA3AR IB6FEA3AR JgA3AR IESAqAD",
  "DFBbAR OCnBbAR OFJBbAR OBcBbAR OGjBbAR EG-ADDFBbAR ICnBbAR IFJBbAR IBcBbAR IGjBbAR FNADDFBbAR ",
  "ICnBbAR IFJBbAR IBcBbAR IGjBbAR EKRADBcBbAR EDFADCnBbAR IBcBbAR ECnADDFBbAR IBcBbAR EFJADDFBbA",
  "R IBcBbAR EGZADDFBbAR ICnBbAR IFJBbAR IBcBbAR EITADCnBbAR IFJBbAR IBcBbAR FfADDFBbAR ICnBbAR I",
  "FJBbAR IBcBbAR EHfADCnBbAR ENaADBcBbAR EHAADDFBbAR IBcBbAR EJxADDFBbAR IBcBbAR EHxADDFBbAR ICn",
  "BbAR IFJBbAR IBcBbAR EICADCnBbAR IBcBbAR EGfADDFBbAR ICnBbAR IFJBbAR IErBbAR IBcBbAR EErADDFBb",
  "AR ICnBbAR IFJBbAR IBcBbAR IGjBbAR EBcADDFBbAR ICnBbAR IFJBbAR IBcBbAR EFKADDFBbAR ICnBbAR IFJ",
  "BbAR IBcBbAR IGjBbAR EGjADDFBbAR IBcBbAR IJTB6BbAR EBgADDFBbAR ICnBbAR IFJBbAR IBcBbAR IGjBbAR",
  " IESAqADBcDRAR OGjDRAR EG-ADBcDRAR IGjDRAR FNADBcDRAR IGjDRAR EKRADBcDRAR IGjDRAR EGZADBcDRAR ",
  "IGjDRAR EHGADBcDRAR IGjDRAR EGfADErDRAR IBcDRAR EErADBcDRAR EFKADBcDRAR IGjDRAR EBgADBcDRAR IG",
  "jDRAR ENcADNYDRAR IPLDRAR INZDRAR EHfADB6FEBOAR JgBOAR FAADB6FEBOAR JgBOAR EJxADB6FEBOAR JgBOA",
  "R EGZADB6FEBOAR JgBOAR EHGADB6FEBOAR JgBOAR ECnADB6FEBOAR JgBOAR EDFADB6FEBOAR JgBOAR EFJADB6F",
  "EBOAR JgBOAR EITADB6FEBOAR JgBOAR FfADB6FEBOAR JgBOAR EHGADDFBOAR ICnBOAR IFJBOAR IBcBOAR IHwB",
  "OAR EGZADHwBOAR EITADHwBOAR FfADHwBOAR EHfADB6FEA3AR JgA3AR FAADB6FEA3AR JgA3AR EJxADB6FEA3AR ",
  "JgA3AR EGZADB6FEA3AR JgA3AR EHGADB6FEA3AR JgA3AR ECnADB6FEA3AR JgA3AR EDFADB6FEA3AR JgA3AR EFJ",
  "ADB6FEA3AR JgA3AR EITADB6FEA3AR JgA3AR FfADB6FEA3AR JgA3AR EHGADDFA3AR ICnA3AR IFJA3AR IBcA3AR",
  " IHwA3AR EGZADHwA3AR EITADHwA3AR FfADHwA3AR EHGADDFBbAR ICnBbAR IFJBbAR IBcBbAR EGZADGjBbAR EH",
  "GADGjBbAR FfADBcBbAR EGZADDFDRAR ICnDRAR IFJDRAR EHGADDFDRAR ICnDRAR IFJDRAR FfADBcDRAR ENaADB",
  "cDRAR EB6ADTdA3AR KBOAR A1JArG4 DoG4 AAIAj6KS1K EU7Zd4OS KT KV KW KX E6PIeE6qo EeEeF E4NpeF Gq",
  "eF EeE4Pl6q7 E6I+6Xq FPJeE6qr6qp E4NoeF E6eE6qq FKT1K EGNADDFADBcBbAR ICnADDFA3AR OBbAR MBcBbA",
  "R IFJADBcBbAR IBcADDFBbAR MCnBbAR MFJBbAR EDFADBcADCnA3AR OBbAR ECnADBcADBgA3AR N6FEA3AR EGZAD",
  "CnADDFBbAR IDFADCnBbAR MB6FEA3AR IBcADCnA3AR OBbAR MDFBbAR MBcA3AR OBbAR EITADCnADCnA3AR OBbAR",
  " IBcADBcA3AR EHGADCnADBcA3AR OBbAR IDFADBgA3AR IBcADFJA3AR OBbAR MBcA3AR OBbAR EIfADCnADB6FEA3",
  "AR IFJADBcA3AR OBbAR EHfADBcADCnA3AR OBbAR MBcBbAR NgA3AR FAADDFADBcA3AR IBcADBcA3AR OBbAR N6F",
  "EA3AR EJxADBcADBcA3AR NgA3AR N6FEA3AR EHxADFJADBcA3AR OBbAR EICADBcADCnA3AR MBcA3AR EErADCnADB",
  "cA3AR NgA3AR N6FEA3AR IDFADDFBbAR OA3AR IFJADBcA3AR OBbAR IBcADCnA3AR OBbAR EBcADCnADDFBbAR MB",
  "cBbAR NgA3AR IDFADCnBbAR MBcBbAR IFJADDFBbAR MBcBbAR;FD92 AAIAjBcADDFADFJBbAR EGjADBcADDFBbAR ",
  "MBcBbAR EFKADCnADBcBbAR N6FEA3AR IDFADBcA3AR OBbAR N6FEA3AR IBcADBgA3AR N6FEA3AR EBgADBcADBcA3",
  "AR OBbAR EG-ADFJADBgA3AR FNADDFADBgA3AR N6FEA3AR IFJADBgA3AR N6FEA3AR IBcADBgA3AR N6FEA3AR EDF",
  "ADBcADBgA3AR ICnADB6FEA3AR IBcADB6FEA3AR EGZADFJADB6FEA3AR EITADCnADBgA3AR EHGADCnADBgA3AR EIf",
  "ADCnADBgA3AR EErADDFADBgA3AR IBcADBgA3AR EBgADCnADBgA3AR IDFADBgA3AR IBcADBgA3AR FcADBcADBgA3A",
  "R EICADBcADBgA3AR EFKADCnADBgA3AR EICADBcADCnBbAR EErADCnADBcBbAR EHAADBcADBgA3AR EGfADBcADBgA",
  "3AR EFKADDFADCnBbAR EBcADFJADBgA3AR EErADDFADBcBbAR EGfADBcADBcA3AR EErADDFADBcA3AR EFKADDFADC",
  "nA3AR EDFADCnADBgA3AR ECnADDFADBgA3AR EBcADDFADBgA3AR EHxADBcADBgA3AR EG-ADCnADBgA3AR FfADBcAD",
  "BcBbAR EHAADDFADBcBbAR EITADBcADBcBbAR EGZADFJADBgA3AR EFKADDFADBgA3AR;FDCF AAIAj6PF4Nr;FDF0 A",
  "AIAj1L1MNd1NEoABBOAR E6IV1MNd1NEoABBOAR E4NzBOAR GgBOAR E52UBOAR E6PHBOAR FKhBOAR EXPBOAR E1OB",
  "OAR FLBOAR EpcXP1O E5kq A6LtAB AAIAj4Vt4O+4O9 E6bOEw6d+ E4QhEw5kp ABI6QL DR6 DS+ DTJ EU Ef Eq ",
  "E1 DUA DQM EX Ei Et E4 DRD EO AIcARAsBYFq IChFq KGUEo IId IOT IJsAu JCAu IArBESxCF JoBESx4Wh I",
  "CvSD;FE20 AAiAjArBy FoBy D4C5ArBy HoBy CFIArBy FoBy C1PFI CAjArByA+ FoByA+ CC5ArByA+ FoByA+ CF",
  "IArByA+ FoByA+ C1PFIA+ CAtXKArBy HoBy AIcARAsBYA7BAiw ILsHY IF+HY ICKE- IPNCKE- IArG4 JoG4 JrI",
  "ACF JoIACF JrJ5IiCF JoJ5IiCF JrA8SxCF JoA8SxCF JrA4FfCF JoA4FfCF JrFfCF JoFfCF JrH7CF JoH7CF J",
  "rBEH7CF JoBEH7CF A1QBA ABE1QBA AIcARAsBYArAvCF JoAvCF AOBR1 A1RR1 APNR1 AA4PNR1 AOBCKE- A1RCKE",
  "- APNCKE- AACFq CChFq CGUEo;FE54 AACOT CId CJCAu DsAu CLsHY CArG4 DoG4 DrIACF DoIACF DrJ5IiCF ",
  "DoJ5IiCF DgAB CRt CG5 CBkAB CaN CFuAB DvAB CH-AB;FE68 AACK6KN CTVAB CXDAB DEJc;FE70 AAITdBOAR ",
  "CU8ADTdAq CXQBOAR CFr5HP CXRBOAR;FE76 AAINYBOAR EDRAR CPLBOAR EDRAR CNZBOAR EDRAR DcBOAR EDRAR",
  " CR-BOAR EDRAR CAAESBOAR EB6ADPMAqBOAR MA3AR IESAqBOAR MA3AR EHQADESAqBOAR MA3AR EB6ADESA+BOAR",
  " MA3AR FgADESAqBOAR MA3AR MBbAR MDRAR F6BOAR GA3AR EG-BOAR GA3AR GBbAR GDRAR FNapBOAR IA3AR GB",
  "OAR GA3AR GBbAR GDRAR EKRBOAR GA3AR GBbAR GDRAR EDFBOAR GA3AR GBbAR GDRAR ECnBOAR GA3AR GBbAR ",
  "GDRAR EFJBOAR GA3AR GBbAR GDRAR ELbBOAR GA3AR ER+BOAR GA3AR EHwBOAR GA3AR EMdBOAR GA3AR EGZBOA",
  "R GA3AR GBbAR GDRAR EHGBOAR GA3AR GBbAR GDRAR EITBOAR GA3AR GBbAR GDRAR FfBOAR GA3AR GBbAR GDR",
  "AR EHfBOAR GA3AR GBbAR GDRAR ENaBOAR GA3AR GBbAR GDRAR EHABOAR GA3AR GBbAR GDRAR EJxBOAR GA3AR",
  " GBbAR GDRAR EHxBOAR GA3AR GBbAR GDRAR EICBOAR GA3AR GBbAR GDRAR EGfBOAR GA3AR GBbAR GDRAR EEr",
  "BOAR GA3AR GBbAR GDRAR EBcBOAR GA3AR GBbAR GDRAR EFKBOAR GA3AR GBbAR GDRAR EGjBOAR GA3AR GBbAR",
  " GDRAR EHQBOAR GA3AR EB6FEBOAR IA3AR FgBOAR GA3AR GBbAR GDRAR DjErADB6ADPMAqBOAR QA3AR MESAqBO",
  "AR QA3AR P+BOAR QA3AR KBOAR KA3AR;FEFF ADjPbfgKl;FF01 ADDJsAu CI4Au CAgAB CTVAB CXDAB CRt CQt ",
  "CArG4 DoG4 CG5 CBkAB CFq CaN CGUEo CKN CAQDj EA2 F7 EBG FT Fa F5 ECE EB3 ECJ CId COT CFuAB CH-",
  "AB CFvAB CJCAu CXEJc CAHAFAAAW IBD ID2 JU IA9 IEz IDE JV IA- IEW IDJ IBz ICz Jc IA6 ID8 IFw IB",
  "m Jn IDG IAz IDM IEN ID9 Jk Jd DrAvCF CK6KN CAoAvCF CEOFH CCKE- CFAFH CAHACAAAW IBD ID2 JU IA9",
  " IEz IDE JV IA- IEW IDJ IBz ICz Jc IA6 ID8 IFw IBm Jn IDG IAz IDM IEN ID9 Jk Jd DrIACF CBYE- C",
  "AoIACF CC5 CArBEG4 DoBEG4 ACfChGUEo CArH7CF DoH7CF CChFq CBNBRBA EAAKS GACAW J- Jz J9 J6 IC1 I",
  "Hd IIh IKH CUGyCMLAu CBNAAAW H- Hz H9 H6 GBe GKU Hw GLA GKF GC7 GKf Hv Hz GJy GC3 GLe GKH GH2 ",
  "GBH GCx GIL He HM GHi GCG GH6 GNk GHV GJe GCq GI8 GHc GIU GKt GC1 GHd GIh GCe GMj GKe GLv GJz ",
  "GEw GCc EPyMLAu Ek5MLAu CAfRA EAASE GbV GhM GSF Gbc Hd GSG GbW GSH Gbe Hf Hg Hh GhN HO Gba GSI",
  " HJ GbX Hb GSK GbY GQ+ H- GbZ GSL HM HN HO HP;FFC2 ACfAfAAAW GIZ GC1 GXL H8 GA9;FFCA ACfAfAAhJ",
  " GMi GA6 GEw GhK GHE;FFD2 ACfAfAAIh GAz GhL GJv GKy GHd;FFDA ACfAfAAQ7 GAJ H-;FFE0 ADDoZAB CaO",
  "AB CFTAB DI CUqB7 CXFAB Ci1AB;FFE8 ACf5HHB-BY CBxAe CC-Ae CBfAe CC6Ae CA8Av CBEB8;FFF9 Al+LkwG",
  " EJw E6fM A6Bq1SDf A1SDf;10000 AAhBDAE1TAW G4Q+A9 I1A- HRVA6 HQjAz G1UDC G4RFKp G1VLh G4QnLL H",
  "RLLg IREq IGOb;1000D AAhBDAE4Q8PY HRZTu IlBe IELA IbKU IeKF IpKw IoCq HQmIU HRhI8 HQoKt IwHc G",
  "1WCx G4QxIM I3IL HRMHi IPIe G1XCa G4RgGy HQ-GW IkLt HRKN8 HQpLI HRmbn HQuYA I5bo;10028 AAhBDAE",
  "4RUCe HQ0Lv HRNMj G1YJz G4QzKe I4C7 G1ZKz G4RBKf HQlJy HRSKv ITC3 G1aH2 G4Q9Le G1bBH G4RdKH IO",
  "Ew IjJv IAKy ICKS;1003C AAhBDAE4QqGe HRiKq;1003F AAhBDAE4QtOg Iyl- HRD4Fq IsEl Iflo Iw5Bl IIbq",
  " HQ26Hl HRW6Hk Ik6KH HQ66KI HRc6MZ Ia6d9 IuYK IxA7;10050 AAhBDAM4Qr Is Iv I7 HRH IJ IQ IX IY I",
  "n Iq Ir It Iv;10080 AAhBDCk4RyKx IzSw I0k3 I15Di I25y+ I36aG I4xm I5dU I66V3 I75NJ I86Yw I91c ",
  "I+ZK I-4W8 HSAks IB4UM IC1d ID6ZC IE43- ERV4SF5mr IG5mn ECk4SHeG IIde IJ ERV4SK4PJ IL50F ECk4S",
  "M4Ww INdY IO IP1e IQ IR ISIQ IT IU IV ERV4SX6jl ECk4SY IZ Iakj Ib Ic Id5I9 Ie4PS If Ig Ih Ii I",
  "j Ik Il Im In Iogc Ip IqQX Ir Is It Iu Iv Iw Ix Iy Iz I0 I1 I2c8 HTL5HB IO1f ITx2 IUAe IV IW6b",
  "9 IX IY IZ6rZZe IaZe IbZeeH Icc2 Id Ie ERV4Tf48G ECk4Tg Ih Ij Ik Il Im45+ In Io Ip Iq Ir GJL4S",
  "W K3 K4 K5 K6 K7 K8 K9 K+ K- JTA KB KC KD KE KF KG KH KI KJ KK KM KN KP KQ KR KS Ki Ks;10100 A",
  "F5KcJwE- GBA CNoAu;10107 AF5AgA2 F7 EBG FT Fa F5 ECE EB3 ECJ EEG EGl EI9 EJh EIN EMJ EIV ENB E",
  "H0 EA2CM F7CM EBGCM FTCM FaCM F5CM ECECM EB3CM ECJCM EA2Ct F7Ct EBGCt FTCt FaCt F5Ct ECECt EB3",
  "Ct ECJCt EEGCt EGlCt EI9Ct EJhCt EINCt EMJCt EIVCt ENBCt EH0Ct;10137 AF5WScfOw ERJS1 FbS1 EOAS",
  "1 EaoS1 CkzUJRJS1 C1gUJRJS1 CUJRbS1 EOAS1 AAkGQKZA2Ht IBy Ii2 GBa GIN GBaCM Jt GINCt GBaUK GEG",
  "UK GINUK GA2CMUK GBaCMUK GA2CtUK GBaCtUK IS2 GEGS2 GINS2 GA2CMS2 GBaCMS2 GA2CtS2 GEGCtS2 GINCt",
  "S2 GEGmA E5NdA26GM EQbA2 EmBA2 FCA7 EQbA7 E44BA71h EmCA71h EWTBa GEG IHlAR EmBEG E50KEG EQbEG ",
  "GI9 EWTIN IHlAR EmBIN EQbIN GA2CM GBGCM EmCBaCM EWTBaCM EQbBaCM E4YgBaCM E54-BaCM EQbA2Ct GBaC",
  "t E464BamA E6anINmA CA2ByAB IHlAR D7RKAB CBGMxAB CqFAB C6ePAB Ci2AB C6BuAB CA7eIAB CBGeIAB DTe",
  "IAB DaeIAB C50PAB DqecfAB DtbAB C6CpAB DsqAB C4PfAB EWAB C5LQAB C6iwcfAB CDjAB CA2HtAB C6XgAB ",
  "C5j6AB A59UAB;10190 AGX6UjAB DlvAB DUPAB C1iAB C4781iAB C6XYAB C467AB C6JCAB DUaAB C5BTAB CNdA",
  "B C4ZFAB A4PpAM;101A0 AAkAMLqJU;101D0 AG9GpAB1j G6GSJV HehJV G4YV Gkx GSw Gc8 G5JB G6gX GAe GV",
  "y Gjg HX G5yr HzT Gl5 Gxs G1k Hl1m G48u Hqe G6YI G4qd HU+ GmD GIQ G5N9 G4W+LH GOM GdU G1n Ho G",
  "6je GVW G1mQX GRi G6D5 GmE G5tH GdnO5 Gx- G5LT G6am GACk1 GPN4UD GAiMGBM;10280 AJMAAAW F9 EBD ",
  "E4VP EDE FU EA- EEN EDd ESS EEW EDJ EFw EBz ECz Fc Edj EXt EAz ED8 EcD EBm Fn EDG EmF EH4 EF+ ",
  "EDV F9;102A0 AGqAAAW E6DA EDU EBz E6mR EBm E5sM El- EFw EBD ECz EA6 E45g EDG ETz E6Vl EBn E4Xa",
  " EAz EXt ED9 ECc E6i- ED8 EeB EA- F9 E6mU EDJ E5mE F5e EEs EDE E5Is Ek7 E6aB ELJ EET E4Xb EmF ",
  "E6mS EHk ElF E5zZ Ga Gb FsN EO7 E6mT;102E0 ABhJaR6Au EAQA2 H7 GBG HT Ha H5 GCE GB3 GCJ FgEG GG",
  "l GI9 GJh GIN GMJ GIV GNB GH0 GA2CM H7CM GBGCM HTCM HaCM H5CM GCECM GB3CM GCJCM;10300 AAnAwAAA",
  "W GM0 GLA GKp GA9 GMD GKq GHV HI GA- GBe GKb GLs GF+ GLW GA6 GGy H7 GKw GM1 GPI GH2 GAz G5C5 G",
  "ho GiO GP0 G5Dl GKP GET Hs G5Du EEcA2 GBa GEG GIN;1032D AAnAwAAMi GudNW HcNW AJlAA4NV FT+ E5Kb",
  " E45q FNY E6IU E5kf FMc E6f0 E5C1 FqG FrE Fyw F49 Fky E6mH FDQ EH0 E6KW FPh Fe+ Frp E5Fk Fjc E",
  "ok E6Ci ECJCM;10350 AAnHMAAH4 GRg G5Ix G1p GA9 G6wz G5Bp GdN G5Bq GA- G5pG Hsb H0C G1q G6pp HE",
  "e HLB GYN GA5 Hz G4nQ G6WQ HV2 HvD GPJ GA6 GGs GP0 GCG G6i6 HoB GZY GdL GQx GMC GHd GC1 GeC Bi",
  "AnHMAAH4 I1p IdN I1q IYN;10380 AIvAA4N2 ELY E5I3 EFW ELG EJe EKS ENy E5Qx ETc EP5 EGf EIa ENV ",
  "ELa E47V EF0 EOm E6PM EHA EN8 E1r E6I3 FKg Ffg EJx EBH EA- Fz EkS;1039F AIvKcWA AAnGOABAW H- H",
  "z GBe GKw GDI GMI GNA GEv Hq GSR GC3 GKH GDC GLh Hg GFs GCa GDl GHW GCx GIe GCq GI8 GHc GC1 GG",
  "G GRC GCe GKe GCu H7 GGe GEp GHh GCG;103C8 AAnGOAB4QM IN IO G6s9 G45s It HT1 HXR EKcWA EAgA2 H",
  "7 GEG GGl GCM;10400 AEVAFAACsA- J9 JW IOh IA6 IGs GE1A- J9 JW IOh IA6 IGs GOk GZf GPW GVZ GDV ",
  "GRF GVW HX Ha Gby GVb Gib G1s GP0 GSQ GRu GYF GPI GYC GLW Gbw GM1 GKb GLs GF+ GOW GXH GmG DCAA",
  "CsA- J9 JW IOh IA6 IGs GE1A- J9 JW IOh IA6 IGs GOk GZf GPW GVZ GDV GRF GVW HX Ha Gby GVb Gib G",
  "1s GP0 GSQ GRu GYF GPI GYC GLW Gbw GM1 GKb GLs GF+ GOW GXH GmG AGwAA6Eh Ey- E5oH ETx E6fu EJy ",
  "E6bu EwS E6uJ E5RD E4VX F6j E5Iw E6pt Ffr E0B EUJ E5lk E6r2 E5MV Ftv F1m FjZ E1t EF- E4M5 EFL ",
  "E1e EMn EOh E6Mb EF0 EWH E4NN ESn EBl E6Bm FCT EeG E4Qa FPI EDe EWU EcU E4PZ ET1 E1u E6ua AHmA",
  "AB6 EDl EC3 EEq ENA EFW E46t ECe F7 E6WF EGt E1v EDI EHW EmH Ep1 E5q2 F1d F-N EHQ ECG F1 EAW F",
  "9 F- F6 Fz EDw EHR EGs;104A0 AHmAQDj EA2 F7 EBG FT Fa F5 ECE EB3 ECJ;104B0 AE3AFAAAW GEP GHA G",
  "Oh G1w GFS G1x GA9 G1y GCG G1z GA- GBe G10 GkV GCu Hq Hx GA6 G11 GCa G12 GC7 GEp GC3 G13 GI7 G",
  "14 GM+ GGt GAz GEw GFW GG0 He GKs;104D8 AE3ACAAAW GEP GHA GOh G1w GFS G1x GA9 G1y GCG G1z GA- ",
  "GBe G10 GkV GCu Hq Hx GA6 G11 GCa G12 GC7 GEp GC3 G13 GI7 G14 GM+ GGt GAz GEw GFW GG0 He GKs;1",
  "0500 AHnAAAW EM0 ERD EKP Fp Edq EZW EQ5 EA9 EOf EQF Efp EHV EA- EOb ELA EGk E5th EIU FM ECx ER",
  "5 EA6 EGy Ebn ELv Ezh EKz EG7 EH2 FI EAz EMD EVY EDk EKq EMY ELr E5KG EiO;10530 AGRGSAA4N4 GU6",
  " Gfv Gy8 GmI G6wb G15 G6wy Hee GFS G6u9 GKs G5kS GEp G16 G5kN G6sr G5Bm GSm G5k7 Hmt Hug HNk G",
  "6Ia G4Oo Hnw GJu G438 G17 GX5 G59j HBr G6Vo G5kw GFL G6j- G5Fq HBo Gzf GWV G5KT Gdf G6Vh Ho9 H",
  "gz Gtz G5kh G437 G1v G6uH Gf0 G5oc;1056F AGRGS4oRAu AFDAFAAAW GX1 GM0 GRD GKP Hp GZW GQ5 GA9 G",
  "Of GDI;1057C AFDAFAACG GRB GA- G18 GOb GBe GCu GJg GIU HM GR5 GA6 GGy GLI Hv;1058C AFDAFAAKz G",
  "G7 GH2 HI GAz GMD GVY;10594 AFDAFAADk GKq;10597 AFDACAAAW GX1 GM0 GRD GKP Hp GZW GQ5 GA9 GOf G",
  "DI;105A3 AFDACAACG GRB GA- G18 GOb GBe GCu GJg GIU HM GR5 GA6 GGy GLI Hv;105B3 AFDACAAKz GG7 G",
  "H2 HI GAz GMD GVY;105BB AFDACAADk GKq;10600 AAhAWAB4LU IV IW IX IY IZ Ia Ib Ic Id Ie If Ig Ih ",
  "Ii Ij Ik Il Im In Io Ip Iq Ir Is It Iu HAu HLv Iw Ix Iy Iz I0 I1 I2 I3 I4 I5 I6 I7 I8 I9 I+ I-",
  " HMA IB IC ID IE IF IG IH II IJ IK IL IM IN IO IP IQ IR IS IT IU IV IW IX IY IZ HCF HMa Ib HCo",
  " HMc Id Ie If HC1 HMg Ih Ii Ij Ik G19 H+ H- G2A HB HC HD HE HF G4Ft Iu G2G HH HI G4Fw Ix Iy G2",
  "J HK HL HM HN HO HP HQ HR HS HT HU HV HW HX HY HZ Ha G4F0 G2b Hc Hd He Hf Hg Hh Hi Hj Hk Hl Hm",
  " Hn Ho Hp Hq Hr Hs Ht Hu Hv Hw Hx Hy Hz H0 H1 H2 H3 H4 H5 H6 H7 H8 H9 H+ H- G3A HB G4Gf Ih Ij ",
  "Il In Ip Ir It Iv Ix Iz I2 I4 I6 I8 I+ HHA IC IE G3C HD HE HF HG HH HI HJ HK HL HM HN HO HP HQ",
  " HR HS HT HU HV HW HX HY HZ G4Ic Id Ie If Ig Ih Ii Ij Ik Il Im In Io Ip Iq Ir Is It Iu Iv Iw I",
  "x Iy Iz I0 I1 I2 I3 I4 I5 I6 I7 I8 I9 I+ I- HJA IB IC ID IE IF IG IH II IJ IK IL IM IN IO IP I",
  "Q IR IS IT IU IV IW IX IY IZ Ia Ib Ic Id Ie If Ig Ih Ii Ij Ik Il Im In Io Ip Iq Ir Is It Iu Iv",
  " Iw Ix Iy Iz I0 I1 I2 I3 I4 I5 I6 I7 I8 I9 I+ I- HKA IB IC ID IE IF IG IH;10740 AAhAWAB4KIAW I",
  "JBD IKDU ILA9 IMEz INDV IOEW IPDJ IQBz IR5qw IS5qx IT5qy IU5qz IVEN IWD9 IXDk IYEu IZ4Mn Ia4UX",
  " Ib46G Ic5EU IdOb;10760 AAhAWAB4Ke If Ig Ih Ii Ij Ik Il;10780 ABCAAACAFDw EJTKoId GByKoId EACI",
  "Z GAFBD GBDADBX;10787 ABCAAACPwIq KADHOBX MKn GaUIq GDUADFr KBX MAaFr H7A9 GHFD7C0A9 GfjIq Gon",
  "IQ GAFDE GDEADBX GAFDEADBX GDVADBM GAFDV GXIADBX GK7EWADBMAaBX GoqIq HrIq GBzADPG GAFBzADPG GB",
  "zADHOBXAaPG GaT IADHOBX GCjDk KADPG GA6ADBM HFHE GHFEu GFw GCjBmADCsLH QAaHOBX GBmADFr KRy GAF",
  "Bm GopIqADKn GaVIq KADHOBX HWIq GDGADHOBX HMADAoBX;107B2 ABCAAACAFDk EIHEoADBM ED7IHEoADBM Efi",
  "PF FhPF EogPF FhPF EHOPFADHOBX EACBnADKn;10800 AGIAEAW F9 F- F6 Fz EEq;10808 AGIAEPY;1080A AGI",
  "AEBe ELA EKU FF Fw ECu EGk EFX ELM EJ0 ECq EIU F8 EKt EHc ECx EIM FL EHi EIe ECa EGy FW ELt EN",
  "8 ECe ELv EMj EJz EKe EC7 EKz Ff EJy EKv EC3 EH2 ELe EBH EKH EEw EJv EKy FS;10837 AGIAENA EVY;",
  "1083C AGIAEGe;1083F AGIAEOg AIwIxAAMR HE Hb GQc GHV HQ GNX GM5 GPP GNM GMe GNN GLa GF0 GMc GOd",
  " GGy GMf GS3 GN1 GIa GMF;10857 AIwIxHsAB EAgA2 H7 GBG GEG GGl GA2CM Jt GEGCt BmAAMR FE Fb EQc ",
  "EHV FQ ENX EM5 EPP ENM EMe ENN ELa EA3F0 EF0 EMc EOd EGy EMf ES3 EN1 EIa EMF CLFmJ CKOmJ CAgA2",
  " F7 EBG FT Fa EEG EGl AHoAAA3MR EMR EA3ME EME Fb EQc EA3HV EHV FQ ENX EM5 EPP EA3NM ENM EA3Me ",
  "EMe EA3NN ENN EA3La ELa EA3F0 EF0 EMc EOd EGy EMf ES3 EN1 EA3Ia EIa EMF;108A7 AHoAgA2 F7 EBG F",
  "T C43lAgBT CAgBa EEG EGl EA2CM;108E0 AJ8AAMR FE Fb E45y EHV FQ E3a EM5 EPP ENM EMe ENN ELa EF0",
  " EMc E3b EGy EMf ES3;108F4 AJ8AAIa EMF;108FB AJ8AgA2 EBa EEG EGl EA2CM BNAA4Ns EU6 E5I2 E465 E",
  "HV EkO E6wU EpW ETc EP5 EGf E5r3 ELa EF0 E6UO EHA EGy E1r Ef9 E6Mr EIa ELq DgA2 EEG EGl EA2CM ",
  "F7 EBG;1091F AJNKcJw BmAAAW EBD EDE FU EA9 EDM EA- EDk FJ EBz ECz Fc EA6 EBm EeB EDG EAz EEz E",
  "Fw EBn EmF EH4 EF+ EiR EXt ED2;1093F AJmKoAu;10980 ACgInAAAW H9 H- H6 GC1 GEw GDl G4Tt GCa Hq ",
  "Hx G3c GIM G3d GCe G3e GCu GFW GRB GC7 G3f GKz GBe GLI GC3 G3g GH2 G3h GBH GDC FM6pD IE CDvAAA",
  "W H9 H- H6 GC1 GEw GDl GCa Hq Hx GIM GCe Hu GFW GRB GC7 GHbC7 GKz GBe GLI GC3 GH2 GBH GDC;109B",
  "C ACgDvDPOtQd GA2By ESz6MS G5ju EAgA2 H7 GBG HT Ha H5 GCE GB3 GCJ GEG GGl GI9 GJh GIN GMJ GIV;",
  "109D2 ACgDvAgA2CM H7CM GBGCM HTCM HaCM H5CM GCECM GB3CM GCJCM GA2Ct H7Ct GBGCt HTCt HaCt H5Ct ",
  "GCECt GB3Ct GCJCt GEGCt GGlCt GI9Ct GJhCt GINCt GMJCt GIVCt GNBCt GH0Ct GA2CMCt H7CMCt GBGCMCt",
  " HTCMCt HaCMCt H5CMCt GCECMCt GB3CMCt GCJCMCt EDPA26jv H7Qd GBGQd HTQd HaQd H5Qd GCEQd GB3Qd G",
  "CJQd GEGQd AFNAAAW DSABA- Hz GB+Bm;10A05 AFNASABA9 H6;10A0C AFNASM8Au DBA4CiA+ EGP EHy DABe EF",
  "W EDI EG0;10A15 AFNAAEv EFS EEq;10A19 AFNAAFV EGa EHS EGh EHj FB EC3 EFs EDC EGt ECx Fa EGF ED",
  "l EHH ECq F1 Fe Fu EGG EEp EHh EC7 EGe ECG Egy E6jM EqI E6o-;10A38 AFNABB7Aq E4Yj EBAA+;10A3F ",
  "AFNHX CAQA2 F7 EBG FT DgEG EGl EA2CM Ht CDPA2By;10A50 AFNDHBA EACB8 EB8 EV0B7 E5yu EeJ EI6 EA4",
  "I6 Ejb;10A60 AAnD0FeAAHV INN IM5 ILa IS3 IHQ IIa IN1 IME JF Iij IMe IF0 I5nv IMf Jc IOf IB6 I3",
  "b I47U IMb IQc I5KJ IPP I3a I47X INM I6fi Kq HgA2 IIN GCyIY DAFeAAGj IEr ICn IBc IIC IHQ I5Dn ",
  "IHw IG- JN I5Dm IGf IFK JJ IIT I5Do IHx IB6 IHA IIf I5JS ILb IJx IHf IMd IR+ IBg IKR INa HgA2 ",
  "IEG IGl;10AC0 AGdAAMR FE Epo EMb E5KV EQc EHV FQ DBJW DANX E6wu E5kv G5 EM5 EPP ENM EMe E6sm E",
  "pt ENN E47Y E6ff ELa EF0 EMc EOd E4LS EGy EOf EMf ES3 E6s5 FIl EN1 EIa E6Zt EMF CLZAuAq H+;10A",
  "EB AGdAgA2 EBa EEG EGl EA2CM CDHFy EmJ EA4BAThBA EBAThBA G EA7CR EE-RA;10B00 AGJAAAW EDw EcY E",
  "4LN EH4 E3i EIZ E3j EA9 EHR EA6 EGs EA- EET EAz EEs ELA EVY ExX E6tB EQF Ehl ELr ERD EOb EH2 F",
  "I EKp EZW EYL EGy EOf EM0 Edy EzP E57Z GY EIM Ehd E59B EIU E5O2 E6vh EMi FD ELv EGk EKz Fq EG7",
  " EMY E6W- FZs EHV;10B39 AGJLZAu AY9A7CRCWA2BADH AACA7CRCWA2BADH ADmA7CRCWA2BADH D2BACWA7CRDH D",
  "73kCWA2CiDH D2CiCWA73kDH AF6JBAAMR HE Hb GQc GHV HQ GNX GM5 GPP GNM GMe GNN GLa GF0 GMc GOd GG",
  "y GMf GS3 GN1 GIa GMF;10B58 AF6JBAgA2 H7 GBG HT GEG GGl GA2CM Jt CGCAAMR HE Hb GQc GHV G3l GNX",
  " GM5 GPP GNM GMe GNN G3m GF0 GMc GGy GMf GIa GMF;10B78 AF6GCAgA2 H7 GBG HT GEG GGl GA2CM Jt AJ",
  "OGCAAMR HE Hb GQc GHV G3l GNX GM5 GNM GMe GNN G3m GF0 GMc GGy GMf GIa GMF;10B99 AJOGCHsAu ECjH",
  "sAu EBTCRADGV KBA;10BA9 AJOGCAgA2 H7 GBG HT GEG GGl GA2CM;10C00 AAnEyAAHUAW GIyAW IIZ GHUA- GI",
  "yA- J9 GHUA6 IHE GIyHE GHUK9 GIyK9 GHU3n GIy3n GHUax GIyax GHU3o GIy3o GHUTg GIyTg GHU4M9 IZg ",
  "GIyZg GHUOk GIyOk GHU3p GIy3p GHU3q GIy3q GHU3r GIy3r GHUMH GIyMH GHU4M- I5DD ILs IH4 IVU GIyV",
  "U GHUeK GIyeK GHUeL GIyeL GHUWW GIyWW IN4 GHUOW GIy4NA GHUcT IlL ImK IZh GIyZh GHUXl GIyXl GHU",
  "mL GIymL GHUmM GIymM GHUgU GIygU GHU4NB INd I4ND IF- GIyF- GHULW GIyLW GHUJc GIyJc GHU3s GIy3s",
  " GHUac I4UQ;10C80 AAnC4AFAAAW IDw ImI I3t IZh IeL I3u Jv IAa J9 IizA9 IHR IP0 I3w Jx IP3 IA- I",
  "ET I3y IVF JA I3z IKb I30 ILs IF+ IWW IA6 IGs IeMHE JNHE I31 IcT I32 IM1 IE1M1 IPI I33 IN0 IeK",
  " I34 IU3 IAz IEs IeMKd JNKd IlA IZg I35 J6AB IcX;10CC0 AAnC4ACAAAW IDw ImI I3t IZh IeL I3u Jv ",
  "IAa J9 IizA9 IHR IP0 I3w Jx IP3 IA- IET I3y IVF JA I3z IKb I30 ILs IF+ IWW IA6 IGs IeMHE JNHE ",
  "I31 IcT I32 IM1 IE1M1 IPI I33 IN0 IeK I34 IU3 IAz IEs IeMKd JNKd IlA IZg I35 J6AB IcX;10CFA AA",
  "nC4AgA2 GBa GEG GIN GA2CM Jt AGiGbAAAW GDl GCa H3 GGa GEq Hv GCG GFW GHW GDC GGh GCe GLK GGe G",
  "C7 GEp GBe GDI GCu Hq Hx GEw G37Ew GC1 G37C1 GEk GFV GGG FSAW H- Hz H9 H6 Fu6PA GCx5nz FB5M0 G",
  "6eI IS Ig;10D30 AGiGbAQDj GA2 H7 GBG HT Ha H5 GCE GB3 GCJ;10E60 AIzAQA2 F7 EBG FT Fa F5 ECE EB",
  "3 ECJ DgEG EGl EI9 EJh EIN EMJ EIV ENB EH0 EA2CM F7CM EBGCM FTCM FaCM F5CM ECECM EB3CM ECJCM C",
  "DPA2By GHt GOA F7RK;10E80 AG3AA5DC EM0 EGy Eho EHI EKz EMr E4nb GV ERB ENA ELb EcP ECe EQy EGe",
  " EEq Eak EIa FT Ff EC3 EKq E15 E6st EHW EGG GHlAR EIC EGf E5np EP6 EEr Eat EF0 ERh EHQ EZf EmG",
  " E5M9 EXJ EN0;10EAB AG3AiESAu EPMAu CuvAu;10EB0 AG3AAErADBAAq EXJADEOAq;10F00 AAnD+AAMR GA3MR ",
  "GME GA3ME GMb GHV GA3HV GHQ GNX GM5 GNM GMe GNN GLa GF0 GA3F0 KADBYFr GMc GOd GHlOd GGy GMf GA",
  "3Mf KADBYFr G6LU GIa GMF GA3MF KADBYFr FgA2 H7 GBG HT Ha GEG GGl GI9 GA2CM EDPA2By EAj4Qg;10F3",
  "0 AD+AAMR FE Fb EHV FQ ENX EM5 ENM EMe ENN ELa EF0 EMc EOd EGy EMf E6LT EIa EMF E5GA E38 CKVIa",
  " CAiBAA+ EA7CRA+ EBAAq EA7CRAq EHqAq H+ EBXAq H+ ECsBXA+ EN1A+ EBMA+ DgA2 EEG EGl EA2CM CDHA7B",
  "YYt KADCR EB8ADBA EA7MSADCR EByB8ADBA;10F70 AAnJ9AAMR HE G5Kl GHQ GNX GA3M5 GNM GMe GNN GLa GF",
  "0 GMc GGy GMf GN1 GIa GMF G38 FiBAAq J+ GA7CRAq L+ EDHB7 GA7Yt ICR GBTCR;10FB0 AJbAAMR EACMR E",
  "ME Fb EQc EHV FQ E43xHQ ENX EM5 ENM EMe ENN ELa EF0 EMc EOd EGy EN1 EIa EMF DgA2 F7 EBG FT EEG",
  " EGl EA2CM;10FE0 AKjAAMR FE Fb EQc EHV FQ ENX EM5 EPP ENM EMe ENN ELa EF0 EMc EOd EGy EMf ES3 ",
  "EN1 EIa EMF Dj6wg;11000 ACrABIS EGP EHy EVI FJ DAAW EDw EA- EET EAz EEs EB+Bm GHk GBz GIK EA9 ",
  "EEP EA6 EEl EBe EFW EDI EG0 EEk Fv EFS EEq EID EFV EGa EHS EGh EHj FB EC3 EFs EDC EGt ECx Fa E",
  "GF EDl EHH ECq F1 Fe Fu EGG EEp EHh EC7 FG EJg EAnCTVB ILK IXn DSABDw G4VSDw GA- GET GAz GEs G",
  "B+Bm IHk IBz IIK GA9 GEP GA6 GEl CHX CI6 CA4I6 CDHBA EA4BA EE- EV0B7 EeJ;11052 ACrAgA2 F7 EBG ",
  "FT Fa F5 ECE EB3 ECJ EEG EGl EI9 EJh EIN EMJ EIV ENB EH0 EA2CM Ht DQDj EA2 F7 EBG FT Fa F5 ECE",
  " EB3 ECJ DBAnCTHX DAAnCTE1A9 L6 DSABAnCTE1A9 N6 DAAnCTJg;1107F ACrAgTY AFOABIS EGP EHy DAAW ED",
  "w EA- EET EAz EEs EA9 EEP EA6 EEl EBe EFW EDI EG0 EEk Fv EFS EEq EID EFV EGa EHS EGh EqB EHj E",
  "Qy EHB EC3 EFs EDC EGt ECx Fa EGF EDl EHH ECq F1 Fe Fu EGG EEp EHh EC7 FG DSABDw GA- GET GAz G",
  "Es GA9 GEP GA6 GEl DBHX EKE CLZAB C5DYAB CAgAB CHsAu CA4HsAu CI6 CA4I6 DSABB+Bm;110CD AFOAgABA",
  "q;110D0 AIOIPAAp+ GHf G4T6 HYA H5r G39 H+ G56V HrF Ghs GH9 G6DO GdQ G6KR GCn Gst G5kn H-S GOh ",
  "G5Cs Git Glc GXM GP3 G3-;110F0 AIOIPAQDj GA2 H7 GBG HT Ha H5 GCE GB3 GCJ;11100 AE8ABIS EGP EHy",
  " DADw EA- Fz F9 Ebr Epw EYD E5KC EcB EhZ EsM FD E5k3 Er7 Epu Eic EsB E1B E59A ETt EXj Er+ E47S",
  " EU- Eb2 EsN Eav E4VQ EhS E6vg EU+ EXi F9 EYB Ebl EPQ DSABAW H- GET GAz GEs GA9 GEP GA6 GEl GX",
  "H D6Au CElAu CHX C5yK;11136 AE8AQDj EA2 F7 EBG FT Fa F5 ECE EB3 ECJ CHsAu CI6 CA4I6 CJCAu CAAt",
  "b DSABDw GQ5 DAr4;11150 AHrAAAW F- Fz F9 F6 EBe EFW EDI EG0 EEv EFS EEq EID EFV EGa EHS EGh EH",
  "j FB EC3 EFs EDC EGt ECx Fa EGF EDl EHH ECq Fe Fu EGG EC7 FG ELK DBKE CLZAB CHsAu CAj6Wm;11180",
  " ADcABIS EGP EHy DAAW EDw EA- EET EAz EEs EB+Bm GHk GBz GIK EA9 EEP EA6 EEl EBe EFW EDI EG0 EE",
  "k Fv EFS EEq EID EFV EGa EHS EGh EHj FB EC3 EFs EDC EGt ECx Fa EGF EDl EHH ECq F1 Fe Fu EJg EG",
  "G EEp EHh EC7 FG DSABDw GA- GET GAz GEs GB+Bm IHk IBz IIK GA9 GEP GA6 GEl DBHX EMg EVI FJ CN2 ",
  "CI6 CA4I6 CLZAB CJw CQ2Au CABKE DSBCAu C5EOE1ASAu C6b0Au CASABgVA9 DBFRIS DQDj EA2 F7 EBG FT F",
  "a F5 ECE EB3 ECJ C5C3 CABDQ Cl3 C423AB CHsYW FX;111E1 AC2HbAQA2 H7 GBG HT Ha H5 GCE GB3 GCJ Fg",
  "EG GGl GI9 GJh GIN GMJ GIV GNB GH0 GA2CM Jt;11200 AFoAAAW EDw EA- Fz F9 EEP EA6 EEl EBe EFW ED",
  "I EVC EG0 EEk Fv EFS EEq EXr;11213 AFoAAFV EGa EHS EGh EHj FB EC3 EFs EDC Ea1 EGt ECx Fa EGF E",
  "Dl ETi EHH ECq F1 Fe Fu EGG EC7 FG EJg DSABDw GA- GET GAz H9 GEP GA6 GEl DBGP EHX EKE ENc CI6 ",
  "CA4I6 CKcJw CHsAu CA4HsAu CLZAB CABR-;11280 AH1AAAW F- Fz F9 EBe EFW EDI;11288 AH1AAG0;1128A A",
  "H1AAEv EFS EEq EXr;1128F AH1AAFV EGa EHS EGh Ea1 EHj FB EC3 EFs EDC EGt ECx Fa EGF EDl;1129F A",
  "H1AAHH ECq F1 Fe Fu EGG EC7 FG ELK EQy CHsAu;112B0 AFGAAAW EDw EA- EET EAz EEs EA9 EEP EA6 EEl",
  " EBe EFW EDI EVC EG0 EEk Fv EFS EEq EXr EID EFV EGa EHS EGh Ea1 ELK EHj FB EC3 EFs EDC EGt ECx",
  " Fa EGF EDl ETi EHH ECq F1 Fe Fu EGG EEp EC7 FG DBGP DSABDw GA- GET GAz GEs GA9 GEP GA6 GEl DB",
  "KE EHX;112F0 AFGAQDj EA2 F7 EBG FT Fa F5 ECE EB3 ECJ;11300 AD-ABAiGPAq EIS EGP EHy;11305 AD-AA",
  "AW EDw EA- EET EAz EEs EB+Bm Hz;1130F AD-AAHR EEP;11313 AD-AAGs EEl EBe EFW EDI EG0 EEk Fv EFS",
  " EEq EID EFV EGa EHS EGh EHj FB EC3 EFs EDC EGt ECx;1132A AD-AACa EGF EDl EHH ECq F1 Fe;11332 ",
  "AD-AACu EJg;11335 AD-AAGG EEp EHh EC7 FG;1133B AAiN-A+ AD-ABKE EMg DSABDw GA- GET GAz GEs GB+B",
  "m IHk;11347 AD-ASABHR GEP;1134B AD-ASABGs GEl DBHX;11350 AD-N2;11357 AD-ElM8Au;1135D AD-AB6GW ",
  "DAGuGP GA4GP EB+Hk GIK DSABB+Bz IIK;11366 AAiD-AQDj GA2 H7 GBG HT Ha H5;11370 AAiD-AAAW GBe GC",
  "x GRC GCa;11400 ADXAAAW EDw EA- EET EAz EEs EB+Bm GHk GBz GIK EA9 EEP EA6 EEl EBe EFW EDI EG0 ",
  "EEk E563 EEv EFS EEq EID EFV E5-Y EGa EHS EGh EHj FB EC3 EFs EDC EGt ECx EWR ECa EGF EDl EHH E",
  "Cq E51B EC1 Fe EQy ECu ER8 EEw Fp EHh EC7 FG DSABDw GA- GET GAz GEs GB+Bm IHk IBz IIK GA9 GEP ",
  "GA6 GEl DBHX EIS EGP EHy EKE EMg EA3GP CN2 C6XO CI6 CA4I6 CFq CWMRA CLZAB CAQDj EA2 F7 EBG FT ",
  "Fa F5 ECE EB3 ECJ D4Fq Cl2Au;1145D ADXiyAB CQ2Au CAAGuGP DBVI FJ;11480 AEMga CAAAW EDw EA- EET",
  " EAz EEs EB+Bm GHk GBz GIK EA9 EEP EA6 EEl EBe EFW EDI EG0 EEk Fv EFS EEq EID EFV EGa EHS EGh ",
  "EHj FB EC3 EFs EDC EGt ECx Fa EGF EDl EHH ECq F1 Fe Fu EGG EEp EHh EC7 FG DSABDw GA- GET GAz G",
  "Es GB+Bm IHk IBz IIK GA9 GE1A9 HP GA6 GE1A6 Hl DBIS EGP EHy FX EKE EMg C5Ly CLZAB CN2;114D0 AE",
  "MAQDj EA2 F7 EBG FT Fa F5 ECE EB3 ECJ;11580 ADQAAAW EDw EA- EET EAz EEs EB+Bm GHk GBz GIK EA9 ",
  "EEP EA6 EEl EBe EFW EDI EG0 EEk Fv EFS EEq EID EFV EGa EHS EGh EHj FB EC3 EFs EDC EGt ECx Fa E",
  "GF EDl EHH ECq F1 Fe Fu EGG EEp EHh EC7 FG DSABDw GA- GET GAz GEs GB+Bm IHk;115B8 ADQASABA9 GE",
  "P GA6 GEl DBIS EGP EHy FX EKE EDQ CI6 CA4I6 CJwBA F7 CZbYW FX E0x CIrBPQ0Au CHsAuADZiAaZF6Cf M",
  "HPS4 IPgAaHPS4 OA4S4 OFxS4 H4Ci KADPg HDA4S4 IFxS4 IPcS4 I6UWS4 IMSAaPg MA75DK MBT5DK CAA6f5Hl",
  "A- EgbHlA- IET EHlAz DSABHlAz IEs;11600 AEbAAAW EDw EA- EET EAz EEs EB+Bm GHk GBz GIK EA9 EEP ",
  "EA6 EEl EBe EFW EDI EG0 EEk Fv EFS EEq EID EFV EGa EHS EGh EHj FB EC3 EFs EDC EGt ECx Fa EGF E",
  "Dl EHH ECq F1 Fe Fu EGG EEp EHh EC7 FG EJg DSABDw GA- GET GAz GEs GB+Bm IHk IBz IIK GA9 GEP GA",
  "6 GEl DBGP EHy FX E4PH CI6 CA4I6 CLZAB CAB5RM;11650 AEbAQDj EA2 F7 EBG FT Fa F5 ECE EB3 ECJ;11",
  "660 ABsNmADFY CFbNm CA4NmADFY CFxNmADFY CNmADA4FY CFbNmADFY IA4FY DRNm GADA4FY CZjNm GADFY IA4",
  "FY CCjZjNmADA4FY;11680 AFPAAAW EDw EA- EET EAz EEs EA9 EEP EA6 EEl EBe EFW EDI EG0 EEk Fv EFS ",
  "EEq EID EFV EGa EHS EGh EHj FB EC3 EFs EDC EGt ECx Fa EGF EDl EHH ECq F1 Fe Fu EGG EEp EC7 FG ",
  "ELK DBGP EHy DSABDw GA- GET GAz GEs GA9 GEP GA6 GEl DBHX EKE DAHbFW CLZAB;116C0 AFPAQDj EA2 F7",
  " EBG FT Fa F5 ECE EB3 ECJ;11700 AFZAABe EFW EEk ECx F3 EHlC3 ECa EGF EDl ECq EEq EFS Fs ECe Fu",
  " F7 EFV ECG EAW EDC EGt EDI EHlDI EG0 EHH EID EHlDl;1171D AFZDzABDRCu Je I5tCCe CASABAW GDw GA",
  "- GET GAz GEs GA9 GgW GA6 GEP GP7 DB5oP;11730 AFZAQDj EA2 F7 EBG FT Fa F5 ECE EB3 ECJ DgEG EGl",
  " DBACHs EHs E6NV DMRC DAEv EGa EHS EGh EHj FB EJg;11800 AFzAAAW EDw EA- EET EAz EEs EA9 EEP EA",
  "6 EEl EBe EFW EDI EG0 EEk Fv EFS EEq EID EFV EGa EHS EGh EHj FB EC3 EFs EDC EGt ECx Fa EGF EDl",
  " EHH ECq F1 Fe Fu EGG EEp EHh EC7 FG ELK DSABDw GA- GET GAz GEs GB+Bm IHk GA9 GEP GA6 GEl DBGP",
  " EHy FX EKE CLZAB;118A0 AECEDAFAAcB IAW IKy IHd IC1 IIh IET Js IA9 J6 IN4 IDI IKF IWW I6vT IcS",
  " Ik6 ITj IYL Il9 IDC IJc IP7 IJ1 IN8 I5OO JPz JQv IVS I6Z5 IYN I6pd FCAAcB IAW IKy IHd IC1 IIh",
  " IET Js IA9 J6 IN4 IDI IKF IWW I6vT IcS Ik6 ITj IYL Il9 IDC IJc IP7 IJ1 IN8 I5OO JPz JQv IVS I",
  "6Z5 IYN I6pd FQDj GA2 H7 GBG HT Ha H5 GCE GB3 GCJ FgEG GGl GI9 GJh GIN GMJ GIV GNB GH0;118FF A",
  "ECEDN2 B4E5AAAW GDw GA- GET GAz GEs GA9;11909 AE4E5AAA6;1190C AE4E5AABe GFW GDI GG0 GEk Hv GFS",
  " GEq;11915 AE4E5AAFV GGa;11918 AE4E5AAGh GHj HB GC3 GFs GDC GGt GCx Ha GGF GDl GHH GCq H1 Ga0 ",
  "GCe Hu GGG GEp GHh GC7 HG GJg GGe FSABDw IA- IET IAz IEs IA9;11937 AE4E5ASABEP IA6;1193B AE4E5",
  "ABGP GIS Ggz EHX EQeZkAB EDRC1 EBbCe EDRCe EABKE F4I6 EWMRA EIrBPQ0Au;11950 AE4E5AQDj GA2 H7 G",
  "BG HT Ha H5 GCE GB3 GCJ;119A0 AFaAAAW EDw EA- EET EAz EEs EB+Bm GHk;119AA AFaAAA9 EEP EA6 EEl ",
  "EBe EFW EDI EG0 EEk Fv EFS EEq EID EFV EGa EHS EGh EHj FB EC3 EFs EDC EGt ECx Fa EGF EDl EHH E",
  "Cq F1 Fe Fu EGG EEp EHh EC7 FG EJg ELK DSABDw GA- GET GAz GEs GB+Bm IHk;119DA AFaASABA9 GEP GA",
  "6 GEl DBGP EHy FX EMg EDQ Cl3 CASABgVA9;11A00 AE6AvAAAW FSABA- IKd IAz J9 IHE IA6 IEP Jl ID7A-",
  " GM8Au FABe GFW GDI GG0 GEk Hv GFS GEq GFV GGa GHS GGh GHj HB GC3 GFs GDC GGt GCx Ha GGF GDl G",
  "HH GCq GI7 GM+ GN3 GXz GKs GGe GVN GC1 He Hu GGG GEp GHh GC7 HG GX0 F3DzAu FBHX GIS IADFY GM7A",
  "DFY GGP GHy EZlAACe EeOAAC1 Je Ju IGG EBbJVAu EXwJVAu EAuPV GMh GA4Mh GCsPV EBb5A5JVAu EXw5A5J",
  "VAu E6bR;11A50 AEIAAAW DSABA- GKd GAz H9 H6 GHE GEP Hl GB+Bm Jz EM8Au DABe EFW EDI EG0 EEk Fv ",
  "EFS EEq EID EFV EGa EHS EGh EHj FB EC3 EFs EDC EGt ECx Fa EGF EDl EHH ECq EI7 EM+ EN3 EKs EGe ",
  "EVN EC1 Fe Fu EGG EEp EHh EC7 FG EX0 DBVI FJ CZlAACe Hu GEp GC7 CA3DzABDE JJ ILJ IDU ICc IBD I",
  "Cz IBm Jz ITz IBn IVN DBGP EHy CXmAu C6bR CAuPV EMh EA4Mh E6GW CJVAuADJKAaMoAaFx5Gm Q5Gm O C6f",
  "LYW GX;11AB0 AAUAVO8H6 GtU GJe GYP GCG GPQ G6Wm In Iq Ir Ik Il E6Y7 FZB GJ FY1 AF7F8F3AACa IBe",
  " ICu Jq IDC IGe JG IEk ICG IDI IFW IC7 IDl IEv IC3 IFs ICx IGF ICe IHW IFS IAW J9 J- J6 Jz IVg",
  " IeC IA3D8 LJ LG KCz Lc KBz KEN KLJ KDk GM6CLCs K GQ2IHEo GM6CLCsA3 KA3 GQ2IHEoA3 ICLCs K KCsA",
  "3 KA3 GmNCL GIHEoIl GmNCLCsA3 KA3 GePCLCs K GIHEo GePCLCsA3 KA3 GIHEoA3;11C00 ADYAAAW EDw EA- ",
  "EET EAz EEs EB+Bm GHk GBz;11C0A ADYAAA9 EEP EA6 EEl EBe EFW EDI EG0 EEk Fv EFS EEq EID EFV EGa",
  " EHS EGh EHj FB EC3 EFs EDC EGt ECx Fa EGF EDl EHH ECq F1 Fe Fu EGG EEp EHh EC7 FG DSABDw GA- ",
  "GET GAz GEs GB+Bm IHk IBz;11C38 ADYASABA9 GEP GA6 GEl DBIS EGP EHy FX EMg CI6 CA4I6 CKcJw CWM5",
  "GN GO;11C50 ADYAQDj EA2 F7 EBG FT Fa F5 ECE EB3 ECJ DgA2 F7 EBG FT Fa F5 ECE EB3 ECJ EEG EGl E",
  "I9 EJh EIN EMJ EIV ENB EH0 CmOOwAu;11C70 AFQJVAu CAuMh DABe EFW EDI EEk Fv EFS EEq EFV EC3 EFs",
  " EDC ECx Fa EGF EDl ECq EI7 EM+ EN3 EEw EKs EGe EVN EC1 Fe Fu EEp EC7 FG EAW;11C92 AFQEAAABe G",
  "FW GDI GEk Hv GFS GEq GFV GC3 GFs GDC GCx Ha GGF GDl GCq GI7 GM+ GN3 GEw GKs GGe;11CA9 AFQEAAA",
  "C1 He Hu GEp GC7 HG GAW CASABDw GA- Hz H9 H6 DBGP EIS;11D00 AEnCNAAAW GDw GA- GET GAz GEs GA9;",
  "11D08 AEnCNAAEP GA6;11D0B AEnCNAAEl GBe GFW GDI GG0 GEk Hv GFS GEq GID GFV GGa GHS GGh GHj HB ",
  "GC3 GFs GDC GGt GCx Ha GGF GDl GHH GCq H1 He Hu GGG GEp GHh GC7 HG GJg GX0 GuP Gif FSABDw IA- ",
  "IET IAz IEs IB+Bm;11D3A AEnCNASABA9;11D3C AEnCNASABEP IA6;11D3F AEnCNASABEl FBGP GHy GKE GM7 G",
  "gz EHX E6LQ FKG;11D50 AEnCNAQDj GA2 H7 GBG HT Ha H5 GCE GB3 GCJ;11D60 AFiCNAAAW GDw GA- GET GA",
  "z GEs;11D67 AFiCNAAHR GEP;11D6A AFiCNAAGs GEl GC1 GGG GDl GHH GCq GBe GFW GC3 GFs GCu GDI GG0 ",
  "GDC GGt GCx GEv GFS GGa GHS GJg GEq GID GGh GHj GEk GCa GGF GCG He H7 FSABDw IA- IET IAz IEs;1",
  "1D90 AFiCNASABHR IEP;11D93 AFiCNASABGs IEl FBGP GHy EHX EN2;11DA0 AFiCNAQDj GA2 H7 GBG HT Ha H",
  "5 GCE GB3 GCJ;11EE0 AKLAABe EDI EEk ECa EDl ECq F3 EDC ECx EEv Fq EFV EC1 Fe Fu EGG EC7 EAW C4",
  "OM CASABA- Hz H9 H6 C6EI CIrBPHs;11FB0 AGoAA6ud;11FC0 ACTDPA26f8 GqJ G5C0 GmP GqK GmQ EBGqL G6",
  "X0 EA2qM G6Xy Iz Gge GHz EBGqN Ga2 EA2gf GHt G5Mj Ik EBGMx E5A8jG5oO CAB56G E4ZP FLT E6mb E53h",
  " FqD E6EP E53J FmT E6Dh EZm E6nx FDE E5qK E6oA C6rT43rAB Ckz43rAB C5r5AB CQYmRAB C6hqgdAB FAgA",
  "B CjLAB CAaTjAB C6Y-AB CvYAB CFgyfAB C6aPIEAB CAB53f E6ns;11FFF ACTDHIrBPQ0 AAKABAW GAYAW ILm ",
  "IK4Ha ICG IIo INOGD IMT IJP El- EK9 GAYQf IULGD IRf IK4Ha ICG IIoGD IeQ IFj ImS IAzBkAzBkAz GG",
  "D ELn GAYeR IK4Ha IIUBkF+ IO9 IMs ETg EVA GAYWX IeSBkK5 EMH GAYMH ImT IK5 ICG IZn IKU IG7 IO+ ",
  "E4Nm EMR EeT GAYG7 EH4 GCWH4 GBGAY HkS5S6H4BkS5 KBo EmU E4Ot FPA HAYLl GQ Gm EF- G6xJHa G5maHa",
  " GCWF-S7CWS7S7CWS7L5 KCWF- OIjF-CWF-CWF- EQf EmV EDl ELm E4T0 EZo Fp GCWZp EeR EB7 E4UJ ELf GA",
  "YAW IJH IIoGD EJ1 GCWJ1K9 KQ9 GIjJ1 EeU GCWeU ERg E4XI EDC EJi GJQAYAWBkUM KeT LR KLf KDI MBkU",
  "M KKT KUN KMU KCG KYc MBkJ0 KQg KCu KJ0 MBk5zJ KO6 KIM KL5BkL5 KKf KMs KNPBkUN KO+ E45z G6 G7 ",
  "G8 ELh E47s EUO GAYG7 EmT EeV GNQAzGDKi EKi ELg GCWLg GGD GMt EWY GAYQh E5BI EIW E5BL GM EmW E",
  "UL GGD IGD E5BP GV EA9 GAYL5 GCWA9F0CWF0 EO7 GAYAWBkCGBkDC IJH II8 IQi IG7 IAz E5Cp Gx EKb EF+",
  " GAYK4 KHa IIU GIjF+ GS6F+ GBo E5Dj EWX EQh EI0 GAYAW KBkO- OAYO- IH4 ILm IULGD MGD ICG KGD II",
  "oGD INQ KBo IWZ ICu IO-AYO- IFX IJ0 INP IJW EDI GGD EEg GAYAWBkDCBkCG MCG MIo ILnHaBkQW IH4 IF",
  "- IQfBkRf ILm IB7BkCe IRg KBkCe IDC ILh IUOAYG7 IWY IKb KBkCu IF+ KAYK4Ha IK4Ha IJH IKT IUP KB",
  "kAW JNBkKv ICGBkJ0BkQh IWa KBkCu IH6BkFX IS8 IIoGD ImXBkNkBkF- IQg INQ IeW KBkO- IWZBkH4 ICu I",
  "IUBkF+ J8 IF0 KCWF0 ICa IQi IWb IG7 KBkWL IWc IV6 IMs IAz IJW KBkLg GCWEg EeX GIjeX EQj GCWQjJ",
  "HCWJH ERf GQjCWQjJHCWJH E5Iy Gz ETp EK4 GHa GCWK4 GIjK4 EJH E5I6 G- EmY GAYLl EKT GAYA9 Jz GIj",
  "KT EUP GCWUP GIjUP E5Kd EUN GGD EWd GAYAWBkIo IK4Ha IIo IJ0BkIo ICa E5Ks EK5 GIjK5 GAYLm IMs G",
  "Ha EMI GIjMI EUQ GAYQg KAYIoGD IF0 IQiBkS7 GGD EMU GAYAWBkLl ILl GCWMUUR E5Lk EmZ GAYG7 Edt E5",
  "Lq Gt Gu ECG GHa GGD EWa EH6 GAYF- IQf ILm IKi IQj Ima IF0 IG7 IAz ENk ES8 GAYH4 IWa INQ Imb I",
  "JW E5RC EA- GAW Emc EZq GCWZqRg KBo E5jb EIo G47s GMj GCWIoWeCWWeJWCWJW GGD E5je HAYK4Ha Gf EN",
  "L GAYMs GIjNL GS6NL GBo EeQ EFg EYc EmX EBe GAYAW ITg KBkWZ IQf ILm IeR IB7 ILf IWX IQh IDI IR",
  "f IK4Ha IJH KBkO9BkAW IKT IUN IK5BkWb KIjK5 IMI I5Lq IIo INL IQg IKU IeW IFX IJ0 IIU KBkLg MKT",
  " MH2 J8 KBkNq JM IF0 IGW IKe IC7 IWb IEp IG7 IWc IM- I6XT Jbc ITq IAz INP IJW IeYAYCa IO+ IPX ",
  "Emd GIjmd E5mZ Gd EZn E5me Eme GCWme EQg GAYIoGD EZr GAYLm GIjZr E5ml Gm ENQ GFjAYAzCWFjAYAz G",
  "CWNQFjAYAzCWFjAYAz E5nY EKU GAYLm IAz IJW EeW Ema E5oY GZ EJQ GCWJQ EKw GCWH6AYQfKwCWH6AYQf EW",
  "Z E5pu HIlAR Gv EeZ GGD E5p3 ELl GS6Ll EWf E5qQ ECu EFj GAYAW KBkDCBkCG MJH MO- IMH IH4 IF-6xJ",
  "Ha ILm Jf I456 IF+ IDI IJH IMU KBkMU ICG IWa IH6AYF0 IIoGD INL KBkCG MJ0 IKU Ima IWZ IeZ KBkH6",
  "BkAW IFj Imb IJ0 Imf IIU KBkF+ IMT IIM IG7BkV6 IeSBkK5BkWX OHa IRj KBkRj IV6 IDB IMs IH2BkAWBk",
  "KvBkCx IAz KBkAW NzBkAz INPBkF- IJW IO+ GBo ENO GAYG7 KBkV6 GGD ICWNOGDG7 E5rG EO- GAYO- EEr G",
  "AYLl KBkKe EFX E5tF GN Emb EJ0 GAYLm EIF GAYMH ILm IQh KHa IK4Ha IH6AYLm INL I5md IZn KBkF- IK",
  "U ICuBkF- IFj IIUBkF+ JM Je IKfBkF- I6XVBkJ1 IS7 GHa GIjIF GS6IF GBo GMt EWg EUR GCWUR GS6UR G",
  "Mt Emg Ff EO6 GCWO6 KJHCWJH ECq GAYMs GGD E5yI E3+ Eq6 EUM E5zJ EIU Emh EI8 Eea EHc GCWHc Eeb ",
  "GGD E53Q Ga EMT GAYAW ILl IGe GCWMT KAYAWBkCx GIjMT EWh GAYAW KBkLh ILh GGD ECx E54m ES5 GFR G",
  "AYM-Ha GS6S5 E54r Gu5-M H Gv EIM GAYAW IJW GMt FL GAYA9 E57m Emi GAYK4Ha IJHBkK4Ha EJn GAYH4 I",
  "F- KBkF- IMU IIUBkK4Ha JM IF0 IG7 KBkAWH4 MF- OBkF- INPBkF- IO+ E579 EIe E5-A EF0 GNOAYJH KUM ",
  "KQi MCWF0NOAYQi KO+ GHa GCWF0 GIjF0 KNOCWNO ENq GLnAYmV KLf KIW KMU KIoGD KZn KCu KIM K6XX KNP",
  " GJQAYLf MAz ECa EZs EmR EL5 E6E8 EGW GAYAW IK9 ILf IJ1 IA9 J- Imc IAz INP GIjGW EWi GAYZr IJW",
  " IGe GS6Wi ECe E6KK EMj EKe EC7 EJP5-M G GAYAW ILg IWY ICG IQg ILl IO6 II8 IF0 IQi IWc IQW INP",
  " I6lP IRh JG IO+ GCWJP GGD EQi GFjAYQf E6PU EWb EEp EO9 GAYAW ILm IK5 IIM IRj IWL IAz KBkAW E6",
  "Vm Gn EPA EG7 GNk GCWG7QjCWQjJHCWJH LWCWQWJHCWJH E6V5 G6 EmS E6V9 G+ EWc GAYAW INL EOO GAYAW I",
  "Zp IeU JV IJH IIo KGD IWf Imf Ieb IQi E6WH EWe GHa GCWWeRgCWRg EeS EM- GCWFRM- ERj E6Wu EKf GG",
  "D E6XT Eec GCWecRj E6XV GX EKv GCWKv E6bZ Ga Gc EV6 E6be Edv E6bt EC3 GG5 GAYH6 II8 GGD EQW GC",
  "WQWILCWILKiCWKi GBo EDB GAYLf IMU IG7 IM- IS7 IJW EMs ETq EH2 GGD ELe GHa El8 ET0 GAYMs GCWT0 ",
  "KQjCWQjJHCWJH EKH ES7 EuX EZa EWL GCWWLGeCWGe EAz GMU GAzAz GCWAzCaCWCaJHCWJH KdvCWdv KAzD7CWA",
  "zD7 ENP E6lP EJW GWf GAYLm II8 IAzBkAzBkAz SGD GGD GMt IAYLm E6lU ERh GAYFj IIUBkDC IO9 IAz E6",
  "lo EeY GAYNQ ICa EQ9 GGD ERG GIjRG GMt EPB GAYAWBkCG Nx IMH ICG IF0 INP KBkF- MLf E6mB GD GE E",
  "Jo GAYAW ImV IB7 ImW IDI IRf IK4Ha IJH IMI ICG IIo INL ImX IKU IO6 Iea ICa IG7 Iec IKH IAzBkMU",
  " IJW IWj EWj GAYAz EO+ GAYAW IKw ILl IMs E6mN GK GM GQ Ga HAYNQ Gc EGe GHa GBoAYLl E6wT GX Gh ",
  "EPX GCWPX E6xH GI H5maHa GN GV EOm Emj GAYAW E6xe Gf EzIZt EK9AYF0 ELnAYAW EeTAY5p2 EJiJQAYNPB",
  "kUM E45m EKiBkM- EWYAYG7 EI0AYMU IG7 EEgAYH4BkQgBkAW IQf E5JN FKj FRJ EBeAYmU I4Pq IK5 IMU IH6",
  "AYQf IO6 ICa I6Wy IKH IPB EFjAYKT EIFMtAYLm GAYQhBkO- IM- Exl EWhAYGe E54n Emk E572 EJnAYZp IK",
  "T E5-AFbH0GT E6E8G5 FF8 EJPAYIoGD E6gW ERhAYIU EAzAz;12400 AAKCyABA7F- GBGF- HTF- HaF- H5F- GC",
  "EF- GB3F- GCJF- GBGKi HTKi HaKi H5Ki GCEKi GB3Ki GCJKi GBTAz HaAz H5Az GCEAz GB3Az GCJAz GA2Rk",
  " H7Rk GBGRk HTRk HaRk H5Rk GCERk GB3Rk GCJRk GA2Zu H7Zu GBGZu HTZu HaZu GA7PA GBGPA KIlAR HTPA",
  " HaPA H5PA GCEPA GB3PA GCJPA GA2Wk H7Wk GBGWk KIlAR HTWk HaWk GPAAYRfBkKi Oea GA2Wl H7Wl GBGWl",
  " KIlAR HTWl HaWl HGIlAR5Dq Or HTIlARml M5tO MmlAW OBD H5IlAR4Pr GCEIlAR5js MeQAW OBD GB3IlAR6m",
  "O OP GCJIlAR5jg Oh Oi OgAW GA7F-Ha GBGF-Ha HTF-Ha HaF-Ha H5F-Ha GA2US H7US GBGUS HTUS KIlAR Ha",
  "US KIlAR G57x Iw GA25Ds H75Ds H2OAKi H7RKKi GBavKKi GA2OAIlARAW H7RKIlARAW H2HzF- JtF- HnmmA2i",
  "7 MHt H2Htdt IBydt GZtA2OA J7RK IJh IIN GBTAzIlAR HaAzIlAR H5AzIlAR GCEAzIlAR GB3AzIlAR GCJAzI",
  "lAR;12470 AAKDHABAnmmKcWA GBYId GC+Id Iu1 I6I6;12480 AAKABK9AYF0Ha IRj ETgAYQh ELmAYKiHa EZoAY",
  "Ln IIL IGe EJ1CWJ1AY54m EDCAYMs EJiAYLl EUOAYIo IAzAzAz EmTAYJW EIWAYmU IF- KJcAr IeV ImW IWX ",
  "IDI IKT IUNGD IK5 ICG IH6 IIoGD INQ ILl IWf KBkNQ I5rJ IEr KAYLl ImgBkK5 IUM Imh II8 JL IGW J7",
  " IKfGD EO7AYLl J5 EWXD9 EQhIjQh EI0MtAYF- KH6 KIoGD KCu KO- KIU Kmh KKv GAYKv EEgAYZo IUOGD II",
  "WAYIoGD MNQ I5Dj IDI IJHBkLh MIM ICGBkAW IWfBkNQ IEr KAYLl Img IMT IIM KBkO7 MKT IOO I6xV EeXF",
  "bH0GT EmYAYAz EK5AYK5IjK5 EUQAYIoGD EMUBkK5AYMs ECGHaGD EH6AYF-CWH6AYF- EBeAYJ1 IBe IAzAzAz IR",
  "G EFjAYOmCWOm E5rI GK GL GM GN GO GP GQCW5rQGD GR GSCW5rS GT GU GV GW GX GY GZ Ga Gb Gc Gd Ge ",
  "Gf Gg Gh Gi Gj Gk EWm GAYMI IIo IL5BkWg ML5BkWg INPBkDl E5rl Gm Gn Go Gp Gq Gr Gs Gt Gu EPo GA",
  "YF- ILm IULGDGD IWZ ICu ITq IH2 INP IJW IWj E5rv EQk GAYWY IDI IIo KGD JL IL5BkL5BkWg ImSBkKU ",
  "IJW IWj E5rx Gy EIFGDAYF- GAYKi IWa IL5 KBkL5BkWg IMs F8Bk6wQ EMTCWMTAYDI MQg EJnAYUOGD IK5 I5",
  "Lk IH6 I5nY JrN IUM IL5BkL5 IAz KBkAz IWj FPGDAYCG GAYF+ IG7JcAr IMs E6VmHa EG7CWG7 GBkS8 I54v",
  " IWb ERjBkIWAYIL IO7AYH4 EKfAYMs EMsBkJP EZaAYK4Ha IBGKi EPBFR GAYJW EJoAY457 I5rw IWg E6wQ EO",
  "mCWOmBkWb EmjAYBGKiHa;12F90 ADNAB4ot Gu Gv Gw Gx Gy Gz G0 G1 G2 G3 G4 G5 G6 G7 G8 G9 G+ G- FpA",
  " GB GC GD GE GF GG GH GI GJ GK GL GM GN GO GP GQ GR GS GT GU GV GW GX GY GZ Ga Gb Gc Gd Ge Gf ",
  "Gg Gh Gi Gj Gk Gl Gm Gn Go Gp Gq Gr Gs Gt Gu Gv Gw Gx Gy Gz G0 G1 G2 G3 G4 G5 G6 G7 G8 G9 G+ G",
  "- FqA GB GC GD GE GF GG GH GI GJ GK GL GM GN GO GP;13000 AAOAG4AL GM GN GO GP GQ GR GS GT GU G",
  "V GW GX GZ Ga Gb Gc Gd Ge Gf Gg Gh Gi Gj Gk Gl Gm Gn Go Gp Gq Gs Gt Gv Gw Gx Gy Gz G0 G1 G2 G3",
  " G4 G5 G6 G8 G9 G+ FBA GB GC GD GE GF GG GH GK GL GM GN GO GP GQ GR GS GT GU GV GW GX GY GZ Ga",
  " Gb Gc Gd Gh Gi Gj Gk E1U FY FX Fa Fb E4Qi E1W FV FT FZ E4Xc Gd Ge Gf Gg Gh Gi Gj Gk Gl Gm Gn ",
  "Go Gp Gq Gr Gs Gt Gu Gv Gw Gx Gy Gz G0 G1 G2 G3 F4E GF GG GH GI GJ GK GL GM GN GO GP GQ GR GS ",
  "GT GU GV GW GX GY GZ Ga Gb Gc Gd Ge Gf Gg Gh Gi Gj Gk Gl Gm Gn Go Gp Gq Gr Gs Gt Gu Gv Gw Gx G",
  "y Gz G0 G1 G2 G3 G4 G5 G6 G7 G8 G9 G+ G- F5A GB GC GD GE GF GG GH GI GJ GK GL GM GN GO GP GQ G",
  "R GS GT GU GV GW GX GY GZ Ga Gb Gc Gd Ge Gf E5B0 G1 G2 G3 G4 G5 G6 G7 G8 G9 G+ G- FCA GB GC GD",
  " GE GF GG GH GI GJ GK GL GM GN GO GP GQ GR GS GT GU GV GW GX GY GZ Ga Gb Gc Gd Ge Gf FEV GW GX",
  " GY GZ Ga Gb Gc Gd Ge Gf Gg Gh Gi Gj Gk Gl Gm Gn Go Gp Gq Gr Gs Gt Gu Gv Gw Gx Gy Gz G0 G1 G2 ",
  "G3 G4 G5 G6 G7 G8 G9 G+ G- FFA GB GC GD GE GF GG GH GI GJ GK GL GM GN GO GP GQ GR GS GT GU GV ",
  "FHs Gt Gu Gv Gw Gx Gy Gz G0 G1 G2 G3 G4 G5 G6 G7 G8 G9 G+ G- FIA GB GC GD GE GF GG GH GI GJ GK",
  " GL GM GN GO GP GQ GR GS GT GU GV GW GX GY GZ Ga Gb Gc Gd Ge Gf Gg Gh Gi Gj Gk Gl Gm Gn Go Gp ",
  "Gq Gr FMB GC GD GE GF GG GH GI GJ FSH GI GJ GK GL GM GN GO GP GQ GR GS GT GU GV GW GX GY GZ Fl",
  "8 G9 G+ G- FmA GB GC GD Fqm Gn Go Gp Gq Gr Gs Gt Gu Gv Fum Gn Go Gp Gq Gr Gs Gt Gu Gv Gw Gx Gy",
  " Gz G0 G1 G2 G3 G4 G5 G6 G7 G8 G9 G+ G- FvA GB GC GD GE GF GG GH GI GJ GK GL GM GN GO GP GQ GR",
  " GS GT GU GV GW GX GY GZ Ga Gb Gc Gd Ge Gf Gg Gh Gi Gj Gk Gl Gm Gn F3t Gu Gv Gw Gx Gy Gz G0 G1",
  " G2 G3 G4 G5 G6 G7 G8 G9 G+ G- F4A GB GC GD GE GF GG GH GI GJ GK GL GM GN GO GP GQ GR GS GT GU",
  " GV GW GX GY GZ Ga Gb Gc Gd F8o Gp Gq Gr Gs Gt Gu Gv Gw Gx Gy Gz G0 G1 G2 G3 G4 G5 G6 G7 G8 G9",
  " F+m Gn Go Gp Gq Gr Gs Gt Gu Gv Gw Gx Gy Gz G0 G1 G2 G3 G4 G5 G6 G7 G8 G9 G+ G- E6Aa Gb Gc Gd ",
  "Ge Gf Gg Gh Gi Gj Gk Gl Gm Gn Go Gp Gq Gr Gs Gt Gu Gv Gw Gx Gy Gz G0 G1 G2 G3 G4 G5 G6 G7 G8 G",
  "9 G+ G- FBA GB GC GD GE GF GG GH GI GJ GK GL GM GN GO GP GQ GR GS GT GU GV GW GX GY GZ Ga Gb G",
  "c Gd Ge Gf Gg Gh Gi Gj Gk FCz G0 G1 G2 G3 G4 G5 G6 G7 G8 G9 G+ G- FIK GL GM GN GO GP GQ FJh Gi",
  " Gj Gk Gl Gm Gn Go Gp Gq Gr Gs Gt Gu Gv Gw Gx Gy Gz G0 G1 G2 G3 G4 G5 G6 G7 G8 G9 G+ G- FKA GB",
  " GC FN2 G3 G4 G5 G6 G7 G8 G9 G+ G- FOA GB GC GD GE GF GG GH GI GJ GK GL GM GN GO GP GQ GR GS G",
  "T GU GV GW GX GY GZ Ga Gb Gc Gd Ge Gf Gg Gh Gi Gj Gk Gl Gm Gn Go Gp Gq Gr FdO GP GQ GR GS GT G",
  "U GV GW GX GY GZ Ga Gb Gc Gd Ge Gf Gg Gh Gi Gj Gk Gl Gm Gn Go Gp Gq Gr Gs Gt Gu Gv Gw Gx Gy Gz",
  " G0 G1 G2 G3 G4 G5 Fkd Ge Gf Gg Gh Gi Gj Gk Gl Gm Gn Go Gp Gq Gr Gs Gt Gu Gv Gw Gx Gy Gz G0 G1",
  " G2 G3 G4 G5 G6 G7 G8 G9 G+ G- FlA GB GC GD GE GF GG GH GI GJ GK GL Fmd Ge Gf Gg Gh Gi Gj Gk G",
  "l Gm Gn Go Gp Gq Gr Gs Gt Gu Gv Gw Gx Gy Gz G0 G1 G2 G3 G4 G5 G6 G7 G8 G9 G+ G- FnA GB GC GD G",
  "E GF GG GH GI GJ GK GL GM GN GO GP GQ GR GS GT GU GV GW GX GY GZ Ga Gb Gc Gd Ge Gf Gg Gh Gi Gj",
  " Gk Gl Gm Gn Go Gp FqD GE GF GG GH GI GJ GK GL GM GN GO GP GQ GR GS GT GU GV GW GX GY GZ Ga Gb",
  " Gc Gd Ge Gf Gg Gh Gi FsZ Ga Gb Gc Gd Ge Gf Gg Gh Gi Gj Gk FtU GV GW GX GY GZ Ga Gb Gc Fvn Go ",
  "Gp Gq Gr Gs Gt Gu Gv Gw Gx Gy Gz G0 G1 G2 G3 G4 G5 G6 G7 G8 G9 G+ G- FwA GB GC GD GE GF GG GH ",
  "GI GJ GK GL GM GN GO GP E4Km Gn Go Gp Gq Gr Gs Gt Gu Gv Gw Gx Gy Gz G0 G1 G2 G3 G4 G5 G6 G7 G8",
  " G9 G+ G- FLA GB GC GD GE GF GG GH;13430 AAOAGBYTY ECvTY EedJcGzXg IH5Xg IGzIr IH5Ir EKaBR ER0",
  "jH EIrjH;14400 AAdAG4AL GM GN GO GP GR GU GV GW GX GY GZ Ga Gb Gc Ge Gf Gg Gi Gj Gk Gl Gm Gn G",
  "o Gp Gq Gr Gs Gt Gv Gw Gx Gy G0 G1 G2 G3 G4 G5 G6 G7 G8 G+ G- FBA GC GE GF GG GH GI GJ GK GL G",
  "M GN GO GP GQ GR GS GT GU GV GW GX GY GZ Ga Gb Gc Gd Ge Gf Gg Gh Gi Gj Gk Gl Gm Gn Go Gp Gq Gr",
  " Gs Gt Gu Gv Gw Gx Gy Gz G0 G1 G2 G3 G4 G5 G6 G7 G8 G9 G+ G- FCA GB GC GD GE GG GH GI GJ GK GL",
  " GM GN GO GP GQ GR GS GT GU GV GW GX GY GZ Ga Gb Gc Gd Ge Gf Gg Gh Gi Gj Gk Gl Gm Gn Gp Gq Gr ",
  "Gs Gt Gu Gv Gw Gx Gy Gz G0 G2 G3 G4 G5 G6 G7 G8 G9 G+ G- FDA GB GC GD GE GF GG GH GI GJ GK GL ",
  "GM GN GO GP GQ GR GS GT GU GV GW GX GY GZ Ga Gb Gc Gd Ge Gf Gg Gh Gi Gj Gk Gl Gm Gn Go Gp Gq G",
  "r Gs Gt Gu Gv Gw Gx Gy Gz G0 G1 G2 G3 G4 G5 G6 G7 G8 G9 G+ G- FEA GB GC GD GE GF GG GH GI GJ G",
  "K GL GM GN GO GP GQ GR GS GT GU GV GW GX GY GZ Ga Gb Gc Gd Ge Gf Gg Gh Gi Gj Gk Gl Gm Gn Go Gp",
  " Gq Gr Gs Gt Gu Gv Gw Gx Gy Gz G0 G1 G2 G3 G4 G5 G6 G7 G8 G9 G+ G- FFA GB GC GD GE GF GG GH GI",
  " GJ GK GL GM GN GO GP GQ GR GS GT GU GV GW GX GY GZ Ga Gb Gc Gd Ge Gf Gg Gh Gi Gj Gk Gl Gm Gn ",
  "Go Gp Gr E19 F+ F- E2A FB FC FD FE E4Fs E2F FG FH FI E4Fv E2J FK FL FM FN FO FP FQ FR FS FT FU",
  " FV FW FX FY E4Fz E2Z Fa E4F1 G2 G3 E2b Fc Fd Fe E4F4 G5 G6 E2f Fg Fh Fi Fj Fk Fl Fm Fn Fo Fp ",
  "Fq Fr Fs Ft Fu Fv Fw Fx Fy Fz F0 F1 E4F7 E22 F3 F4 F5 F6 E4F8 E27 F8 F9 F+ E4F9 E2- E3A FB E4F",
  "+ G- FGA GB GC GD GE GF GG GH GI GJ GK GLCeDeMj GM GN GO GP GQ GR GS GT GU GV GW GXB3 GY GZ Ga",
  " Gb Gc Gd Ge Gg Gi Gk Gm Go Gq Gs Gu Gw GyR0SzAu G0IrSzAu G1 G3 G5 G7 G9 G- FHB GD GF GG GH GI",
  " GJ GK GL GM GN GO GP GQ GR GS GT GU GV GW GX GY GZ Ga Gb Gc Gd Ge Gf Gg Gh Gi Gj Gk Gl Gm Gn ",
  "Go Gp Gq Gr Gs Gt Gu Gv Gw Gx Gy Gz G0 G1 G2 G3 G4 G5 G6 G7 G8 G9 G+ G- FIA GB GC GD GE GF GG ",
  "GH GI GJ GK GL GM GN GO GP GQ GR GS GT GU GV E3C FD FE FF FG FH E4IW E3I FJ FK FL FM FN E4IX E",
  "3O FP E4IY GZ Ga E3Q FR E4Ib E3S FT FU FV FW FX FY FZ;16800 AAZAAD557FS9 HJJ5G6 GZmS96F6 M5 GU",
  "-S9 G6Wv HgwS9 GlYS9 G6WGCaWN GZmCaWN6F6 O5 G5yS GKHmn G56Y HyV Iz H3j G6Ud G5+b Hne H8m Gd4 G",
  "57G Hr8 Gmodu Gee50X G5yQ G6EE G5KO G6De GN756q G6ABmp GAzlt54q G5KN Gee5+V G6Xr G50j IT H2j H",
  "mf GCamq GVkmq G6E9 G5yU H7z Gyv G6jV G5uL G6Yo HfY G5yX GUH G55f Hp8 H2i G6Wz G5tz HGW G6Mk G",
  "5pd G6Yr GY66Fh G6WK Gee Gmrms6vU Gzs52Z G6DD G58k G6l4 Gln G5yY H8C Hze Gis G6fU GlZ G6DC G5+",
  "J Gmt GNh G5ms Glu GSQ GJ0 Ggs G544 Hzf EGE5+L GKH5yT G6XQ GRLKH G5txef GYb5yR G5oJ G6uY G5zd ",
  "Hmk G6Ei Htwmq GErmseg G5+Z6WC Gdr58B G5KQ Gys GKH5+N Gzk58E G6WB GS96fV Gmu5zc GNhef G5ni HKP",
  " Hnl Hq3 G6EC Ho6 G57E53l H6olh G6sM HO+ HeB G50U H6z JDm H0c G6bb G5zj H2h H-R G6Hv Gmp56n G5",
  "GC Hzq GTx G5na GCq58H KZ Gmo G56j H+F GCq G5oT Gmv EDT57Fmn GlY G6vU Hq3 Gln G55k H6+ HKI Hzg",
  " HJF H-f51050S H+emu Hzi G6F+ G55w GWO4X6 G5nk HKH Hnd GHd53S G5-1 Hzo H+G Gmu G6uX G5pa Gbr G",
  "ls G55p G6eD G58V G6gw6vQ HbM G56teg G6o7 G541 GCq5nb G5+V H6y GlV G5zl H0k H+X G6fZ G56w HHa ",
  "H5l H+E IH G4XB G6o5 G5zh GKe Glr GEr G6gx G5+Tmv H8F GUH Glj G5yY Hzn GJ0 Gdu G58C Gmv G6sS G",
  "56v H+Q IW GlW58k G5+S H5g GCq5+N GU+ GlS G6Ww HUb Gle Gmn G5ze Hnj Hzk Hnf GWO6Fe G6ve G58J H",
  "1P H3C G6WJ GU45sH JFx G56a H44 HtY G6Fy GWV GTc ECl5zp GzS GWN GS9 G58L Hs8 H8I H+I H6k Geg G",
  "6sL G57I Gbm G569 Hnc G6fX HV- G58D G6bb GUH G6tu G5p7 Gze G50a H5m Hyo Gmp G6Uc GXF G58G Hng5",
  "zm H7B GKH G5KC H7K HGB Gld G50s Hsq H5x H2a H0o G6H+ G50q Id GO6 G5+O GWO G5qM Gis G6fU GlZ G",
  "6ve G5nf G6KQ He7 G57A H0Y H+P Hnh Gyt G6FD G5-n Gmo G56j H0b H62 G6vX GL5 Gzw G55g Gef G6bK G",
  "5p3 H6r H7D Gy+ G50S HqA H+R G6fW G5yW H6l Hsr H6x Gms G58V HKM GKw Gd7An Glp G6hX GNh Gb+ G0Z",
  " Glq GCz Gd4 GHc Gb8 G0a GdS GIe GM- Glw GRF GIL Gmr G6Hz G53l Gd6 H7Yo GLe G0h GWOCE G6PZ Gb1",
  " EB0lS G6hV G5zi GlV G6pn G5t8 Gb2 GvD G6Kf G5+M H51 Glz GTn GuF G5pc GzT GTr G56q G6DC GVd Gl",
  "W G5tx H+J GzO Gmt G57C IM H+K G6MG G58J G6Eg Gbl G561 Gz5 G5KS H6- G0j GY6 Gqe G56m H5t G6eHe",
  "f GRL G6Hr Gd36Yi G56ueg G6ug G5KR G6jU HuU GLt G6jb G5nZ G6bL HfV Ho4 HrU Gmw GN8 G6eC G5KD H",
  "6f G6WA G50n Gdw G5-x H8n HJH GZa G5p0 GxP GNh4od Glb G50Z H5o G6Fg HvR G5sp HHa HJI H7J GUH G",
  "3- G568 HKL GHW G5+g G6FC HuW G56p GNhJ2 G6AE HGo G51P HHc H4q H3C HKM GREA- G53k G6Hm G57H Gd",
  "u G6Fj Gee G6uV G560 GCa6Ev GREk+ Gl0 GZU GAW G6hX GA6 H- G5r9 GCa6GU GTt G6ea Gd3y4Vt G6WJ Hu",
  "Z G57Q G6vO Gd56b7 Iku Glt G6vV G0d Glv GZU5Df G0e Glx GTx GSQ GJ0 GI8 Gly GVR G57R GEk GPH Gm",
  "r GRE6LK GCx GGW Gd6 GKF GPK GCq G17 G6fT GKU GN7 GEG G5Ft HKW EGLBe GAz GKw GHR GX+ Glp GNh G",
  "Cu Gb+ G0Y Glq GTt Gd3 Glr GCz Gd4 Gb8 GKf Gls GdS GUH G0b GIe G0c Gd5 GM- GC1 Glu Hv Hw Hx GR",
  "F GKe GIL Gly GU4 G0f GZV GPH Glz H0 GEw GFX Gd6 GKF G0g Gd7 GCq GKt GWO GTc GZT G0i G6py;16A4",
  "0 AHNAAC3 EcA EIh Eat EDl FC EAW EKB Eqa E5Mx E45u Ebx E5nJ EGm Emt Fk ECa EGs EA6 EJz EVV E6f",
  "j El4 EEw EA9 EKF E16 ECu E5Me EMj E6e-;16A60 AHNAQDj EA2 F7 EBG FT Fa F5 ECE EB3 ECJ;16A6E AH",
  "NI6 CA4I6 ADyAA6Cy FBx EmM Edn Ep6 EcF EXl Eyq E6qB Fn8 Fpw G7 EZg Fh E5Dg Edo E5kj EmK FL Eyp",
  " E6mZ EcS E6mA GX E4Qd GZ Gb Gc E6ln Gf Gh Gm EA3LJ ECs6lb EE16ld G4Qc E6lW Gd Ga Gb Gl Gi Gj ",
  "Gk E53q Fzs F23 F3m EBe EFW EDI EEk EC7 F1 EEw ECa EFV EGF EDl ECq Fx FG Fu E0y EC3 EDC ECe EW",
  "R EEp Fv EI7 EG0 E5Q4 EFs ENA EHW EGt EFS EGe;16AC0 ADyAQDj EA2 F7 EBG FT Fa F5 ECE EB3 ECJ;16",
  "AD0 AHpH9AA5DR GBe GKz GHW Gdz Gzv G39 G47j G5pY GPY G5RO GEw GOg Gli GLL GRD G6mW GBH GDl GTs",
  " G6uL GCa G6qu GAW H6 GGs GAz GHR GA9 H-;16AF0 AHpH9AiCPCL HKCL GTXCL G5uHCL HOHCL EGUEo;16B00",
  " ACYBdAS5nL IO HoG Ib Hm4 I7 Hpz HqI HnK Im Hmg Ii HpK IN Hm9 I- Hpx Iy IB IU HoE IF HmZ I8 Hq",
  "O IR HmR IY EDz6n5 G5+d HsD GF3 G58+ G6Kl G58l G6Ig HuB G5OU HzU G4m- G55d HPR G6GN G5+Y H45 G",
  "El G6sn G4Yi EAuMr6jW IJy I5nX Kt I6bN I5P0 I6ei FBUT6f3 Ji24Y+ GMr4nD GUT6fs I5F3 Geh5+i IJU ",
  "I6hj I5Fj GUT6QI G5z16bJ GUT593 GmcxO G6so GMr6i7mx;16B50 ACYBdAQDj GA2 H7 GBG HT Ha H5 GCE GB",
  "3 GCJ;16B5B ACYBdAgPp GmO GEGR6 GTb GCMTb GEG4Vl G6iD;16B63 ACYBdABUT5uM G6tM GlU G6fxlU Hxo6f",
  "e G5Ph H9q G6su G5+f GVm G6j84Y- G5z16i0 GLq G5uA H3c GMr5Mg5uZ5+a5+a I43p6i4 I6j9 L4n9 JHn46D",
  " I59w6he;16B7D ACYBdLSAB6i3 JuK I5tZ JsF I6tN IYM I5M7 J3D I6f2 Jiz JFI I5no JMn I6nr I5Fn IkP",
  " I6i+ I5qP I6p6;16E40 ADrAFAACz GBn GDM GEN G4P- GDd G5pX GD8 HG HE GEz GA- GDJ GAW GEW GA9 GB",
  "D GD2 GAz GHd GBz GFw Gdh G5-Q GD9 HU GHE GCc GBm GA6 GEP GDk DCAACz GBn GDM GEN G4P- GDd G5pX",
  " GD8 HG HE GEz GA- GDJ GAW GEW GA9 GBD GD2 GAz GHd GBz GFw Gdh G5-Q GD9 HU GHE GCc GBm GA6 GEP",
  " GDk DQDj EA2 F7 EBG FT Fa F5 ECE EB3 ECJ DgEG EOt ENG ESe Ff EPe F8 ESg ERS ESh DQA2HlAR F7Hl",
  "AR EBGHlAR CFq CGUEo CAM4Nd CJsXM;16F00 AB9AACa EDl EAJCa Ea4 ECq E51B EHbCq FW EGG E6o+ EC3 E",
  "DC EAJGa GC3 EGa Fh ECx EWR EAJHB EHbCx FB E59J ECu E5ud ER8 E5s3 EiL E48i E6g6 E48j EBe EDI E",
  "AJBe ELI E6Id EEk E563 EHbEk ECG ENA EG0 EgY E6i8 E5Bt EFV E5-Y EM+ EXz EAJM+ GXz ERlM+ EEp EH",
  "h EKs E6xd EI7 EN3 EAJI7 EC7 EGe E6xc EdR E6x+ EHbdR E6yF Fx- EEw EOh ERB E4Wp E6cD E5Bs EH2 E",
  "NW E6NH;16F4F AB9ABDzBCB7 DAgR DB4Pw ERlot G4Pw DSABAW GDw G4NU GH4 GN4 GA6 GGs GKS GEN GA9 GF",
  "+ GOW G6B5 GA- GeC G1u G5Sa Gfo GMC GET GZP GiP GAz GVg G6lM IN GEs G6lY Iz GDk GAJ GIZ G3j Gc",
  "U GM3cU H1 H3M1 GEP GQ5 GEl GRx GCc GLJ G6l6 HvS HB8 I4 Hp4 G5jb Gl4 G5kP GeD;16F8F AB9CLAo EG",
  "zAo EAq F+ CAAQD F8 ETo EQE EbC Emy Eei ERlX3 GQD GTo GQE GbC Gei;16FE0 AATReAu BxReAu BnQZBXA",
  "u EReAu BpACAbRA;16FF0 A6pHHl6KvAuEv K57b;18800 AAT4qp Eq Er Es Et Eu Ev Ew Ex Ey Ez E0 E1 E2 ",
  "E3 E4 E5 E6 E7 E8 E9 E+ E- DrA EB EC ED EE EF EG EH EI EJ EK EL EM EN EO EP EQ ER ES ET EU EV ",
  "EW EX EY EZ Ea Eb Ec Ed Ee Ef Eg Eh Ei Ej Ek El Em En Eo Ep Eq Er Es Et Eu Ev Ew Ex Ey Ez E0 E",
  "1 E2 E3 E4 E5 E6 E7 E8 E9 E+ E- DsA EB EC ED EE EF EG EH EI EJ EK EL EM EN EO EP EQ ER ES ET E",
  "U EV EW EX EY EZ Ea Eb Ec Ed Ee Ef Eg Eh Ei Ej Ek El Em En Eo Ep Eq Er Es Et Eu Ev Ew Ex Ey Ez",
  " E0 E1 E2 E3 E4 E5 E6 E7 E8 E9 E+ E- DtA EB EC ED EE EF EG EH EI EJ EK EL EM EN EO EP EQ ER ES",
  " ET EU EV EW EX EY EZ Ea Eb Ec Ed Ee Ef Eg Eh Ei Ej Ek El Em En Eo Ep Eq Er Es Et Eu Ev Ew Ex ",
  "Ey Ez E0 E1 E2 E3 E4 E5 E6 E7 E8 E9 E+ E- DuA EB EC ED EE EF EG EH EI EJ EK EL EM EN EO EP EQ ",
  "ER ES ET EU EV EW EX EY EZ Ea Eb Ec Ed Ee Ef Eg Eh Ei Ej Ek El Em En Eo Ep Eq Er Es Et Eu Ev E",
  "w Ex Ey Ez E0 E1 E2 E3 E4 E5 E6 E7 E8 E9 E+ E- DvA EB EC ED EE EF EG EH EI EJ EK EL EM EN EO E",
  "P EQ ER ES ET EU EV EW EX EY EZ Ea Eb Ec Ed Ee Ef Eg Eh Ei Ej Ek El Em En Eo Ep Eq Er Es Et Eu",
  " Ev Ew Ex Ey Ez E0 E1 E2 E3 E4 E5 E6 E7 E8 E9 E+ E- DwA EB EC ED EE EF EG EH EI EJ EK EL EM EN",
  " EO EP EQ ER ES ET EU EV EW EX EY EZ Ea Eb Ec Ed Ee Ef Eg Eh Ei Ej Ek El Em En Eo Ep Eq Er Es ",
  "Et Eu Ev Ew Ex Ey Ez E0 E1 E2 E3 E4 E5 E6 E7 E8 E9 E+ E- DxA EB EC ED EE EF EG EH EI EJ EK EL ",
  "EM EN EO EP EQ ER ES ET EU EV EW EX EY EZ Ea Eb Ec Ed Ee Ef Eg Eh Ei Ej Ek El Em En Eo Ep Eq E",
  "r Es Et Eu Ev Ew Ex Ey Ez E0 E1 E2 E3 E4 E5 E6 E7 E8 E9 E+ E- DyA EB EC ED EE EF EG EH EI EJ E",
  "K EL EM EN EO EP EQ ER ES ET EU EV EW EX EY EZ Ea Eb Ec Ed Ee Ef Eg Eh Ei Ej Ek El Em En Eo Ep",
  " Eq Er Es Et Eu Ev Ew Ex Ey Ez E0 E1 E2 E3 E4 E5 E6 E7 E8 E9 E+ E- DzA EB EC ED EE EF EG EH EI",
  " EJ EK EL EM EN EO EP EQ ER ES ET EU EV EW EX EY EZ Ea Eb Ec Ed Ee Ef Eg Eh Ei Ej Ek El Em En ",
  "Eo Ep Eq Er Es Et Eu Ev Ew Ex Ey Ez E0 E1 E2 E3 E4 E5 E6 E7 E8 E9 E+ E- D0A EB EC ED EE EF EG ",
  "EH EI EJ EK EL EM EN EO EP EQ ER ES ET EU EV EW EX EY EZ Ea Eb Ec Ed Ee Ef Eg Eh Ei Ej Ek El E",
  "m En Eo Ep Eq Er Es Et Eu Ev Ew Ex Ey Ez E0 E1 E2 E3 E4 E5 E6 E7 E8 E9 E+ E- D1A EB EC ED EE E",
  "F EG EH EI EJ EK EL EM EN EO EP EQ ER ES ET EU EV EW EX EY EZ Ea Eb Ec Ed Ee Ef Eg Eh Ei Ej Ek",
  " El Em En Eo Ep Eq Er Es Et Eu Ev Ew Ex Ey Ez E0 E1 E2 E3 E4 E5 E6 E7 E8 E9 E+ E- D2A EB EC ED",
  " EE EF EG EH EI EJ EK EL EM EN EO EP EQ ER ES ET EU EV EW EX EY EZ Ea Eb Ec Ed Ee Ef Eg Eh Ei ",
  "Ej Ek El Em En Eo BpACAb4Zc Id Ie If Ig Ih Ii Ij Ik Il Im In Io Ip Iq Ir Is It Iu Iv Iw Ix Iy ",
  "Iz I0 I1 I2 I3 I4 I5 I6 I7 I8 I9 I+ I- HaA IB IC ID IE IF IG IH II IJ IK IL IM IN IO IP IQ IR ",
  "IS IT IU IV IW IX IY IZ Ia Ib Ic Id Ie If Ig Ih Ii Ij Ik Il Im In Io Ip Iq Ir Is It Iu Iv Iw I",
  "x Iy Iz I0 I1 I2 I3 I4 I5 I6 I7 I8 I9 I+ I- HbA IB IC ID IE IF IG IH II IJ IK IL IM IN IO IP I",
  "Q IR IS IT IU IV IW IX IY IZ Ia Ib Ic Id Ie If Ig Ih Ii Ij Ik Il Im In Io Ip Iq Ir Is It Iu Iv",
  " Iw Ix Iy Iz I0 I1 I2 I3 I4 I5 I6 I7 I8 I9 I+ I- HcA IB IC ID IE IF IG IH II IJ IK IL IM IN IO",
  " IP IQ IR IS IT IU IV IW IX IY IZ Ia Ib Ic Id Ie If Ig Ih Ii Ij Ik Il Im In Io Ip Iq Ir Is It ",
  "Iu Iv Iw Ix Iy Iz I0 I1 I2 I3 I4 I5 I6 I7 I8 I9 I+ I- HdA IB IC ID IE IF IG IH II IJ IK IL IM ",
  "IN IO IP IQ IR IS IT IU IV IW IX IY IZ Ia Ib Ic Id Ie If Ig Ih Ii Ij Ik Il Im In Io Ip Iq Ir I",
  "s It Iu Iv Iw Ix Iy Iz I0 I1 I2 I3 I4 I5 I6 I7 I8 I9 I+ I- HeA IB IC ID IE IF IG IH II IJ IK I",
  "L IM IN IO IP IQ IR IS IT IU IV IW IX IY IZ Ia Ib Ic Id Ie If Ig Ih Ii Ij Ik Il Im In Io Ip Iq",
  " Ir Is It Iu Iv Iw Ix Iy Iz I0 I1 I2 I3 I4 I5 I6 I7 I8 I9 I+ I- HfA IB IC ID IE IF IG IH II IJ",
  " IK IL IM IN IO IP IQ IR IS IT IU IV IW IX IY IZ Ia Ib Ic Id Ie If Ig Ih Ii Ij Ik Il Im In Io ",
  "Ip Iq Ir Is It Iu Iv Iw Ix Iy Iz I0 I1 I2 I3 I4 I5 I6 I7 I8 I9 I+ I- HgA IB IC ID IE IF IG IH ",
  "II IJ IK IL IM IN IO IP IQ IR IS IT IU IV IW IX IY IZ Ia Ib Ic Id Ie If Ig Ih Ii Ij Ik Il Im I",
  "n Io Ip Iq Ir Is It Iu Iv Iw Ix;1AFF0 ABNAAOPQD H8 GTo GQE;1AFF5 ABNAAOPmy Gei GUUX3 IQD J8 IT",
  "o IQE;1AFFD ABNAAOPUUmy Iei;1B000 ABNAAHbA9 ADhAAHbMi ABFAA4AE GF GG GK E5R0 G1 G2 G3 E6kR GS ",
  "GT GU GV E5Bu Gv Gw Gx Gy E6AO GP GQ E5mF GI GJ GK GL GM GN GO GP GG GH GQ Fn8 G9 G+ G- FoA GB",
  " GC GD Fpn Go Gp Gq Gr Gs Gt FnD GE GF GG GH GI Fo7 G8 G9 G+ E6Os E3f E6Ot Gu Gv Gw Gx Gy FXF ",
  "GG GH GI GJ GK FbB GC GD GE GF GG GH GI FP7 G8 G9 G+ G- FYW GX GY GZ Ga Gb Gc Fd6 E3g E6d7 G8 ",
  "FgP GQ GR GS GT GU GV FjP GQ GR GS GT Feq E3h E6er Gs Gt Gu Gv Gw Gx Fg8 G9 G+ G- FhA GB GC E5",
  "4e E3c E54f Gg Gh Gi Gj Gk Gl F7e Gf Gg Gh Gi Gj Gk Gl F+j Gk Gl F57 E3d E558 G9 G+ G- F6A F9M",
  " GN GO GP GQ FMK GN GO GP GQ GR GS GT GU GL GM FN0 G1 G2 G3 G4 G5 G6 FQ5 G6 G7 FNC GD GE GF GG",
  " GH GI FPl Gm Gn Go Gp Gq Gr Gs FyB GC GD GE GF GG GH F1D GE GF GG GH GI GJ F29 G+ G- F3A Fzu ",
  "Gv Gw F13 G4 G5 G6 G7 G8 E6td Ge Gf Gg Gh Erd E6vE GF GG GH Fuq Gr Gs Gt Gu Gv FKD E3e E6KE GF",
  " FLm Gn Go Gp Gq Gr Gs FNJ GK GL GM GN GO FKr Gs Gt Gu FMT GU GV GW GX GY Fqj Gk Gl Gm Gn Frb ",
  "Gc Gd Ge Gf GF GG GH GI Gu Gv Gw Gx Gy Gz G0 E53r Gs ADhAAHbPW ABNAAHbAJ GMi GPW;1B150 ADhAAAC",
  "Ky GJv GKS;1B164 ABNAAACKy GJv GKS GCc;1B170 AAx4gy Ez E0 E1 E2 E3 E4 E5 E6 E7 E8 E9 E+ E- DhA",
  " EB EC ED EE EF EG EH EI EJ EK EL EM EN EO EP EQ ER ES ET EU EV EW EX EY EZ Ea Eb Ec Ed Ee Ef ",
  "Eg Eh Ei Ej Ek El Em En Eo Ep Eq Er Es Et Eu Ev Ew Ex Ey Ez E0 E1 E2 E3 E4 E5 E6 E7 E8 E9 E+ E",
  "- DiA EB EC ED EE EF EG EH EI EJ EK EL EM EN EO EP EQ ER ES ET EU EV EW EX EY EZ Ea Eb Ec Ed E",
  "e Ef Eg Eh Ei Ej Ek El Em En Eo Ep Eq Er Es Et Eu Ev Ew Ex Ey Ez E0 E1 E2 E3 E4 E5 E6 E7 E8 E9",
  " E+ E- DjA EB EC ED EE EF EG EH EI EJ EK EL EM EN EO EP EQ ER ES ET EU EV EW EX EY EZ Ea Eb Ec",
  " Ed Ee Ef Eg Eh Ei Ej Ek El Em En Eo Ep Eq Er Es Et Eu Ev Ew Ex Ey Ez E0 E1 E2 E3 E4 E5 E6 E7 ",
  "E8 E9 E+ E- DkA EB EC ED EE EF EG EH EI EJ EK EL EM EN EO EP EQ ER ES ET EU EV EW EX EY EZ Ea ",
  "Eb Ec Ed Ee Ef Eg Eh Ei Ej Ek El Em En Eo Ep Eq Er Es Et Eu Ev Ew Ex Ey Ez E0 E1 E2 E3 E4 E5 E",
  "6 E7 E8 E9 E+ E- DlA EB EC ED EE EF EG EH EI EJ EK EL EM EN EO EP EQ ER ES ET EU EV EW EX EY E",
  "Z Ea Eb Ec Ed Ee Ef Eg Eh Ei Ej Ek El Em En Eo Ep Eq Er Es Et Eu Ev Ew Ex Ey Ez E0 E1 E2 E3 E4",
  " E5 E6 E7 E8 E9 E+ E- DmA EB EC ED EE EF EG EH EI EJ EK EL EM EN EO EP EQ ER ES ET EU EV EW EX",
  " EY EZ Ea Eb Ec Ed Ee Ef Eg Eh Ei Ej Ek El Em En Eo Ep Eq Er Es Et Eu Ev Ew Ex Ey Ez E0 E1 E2 ",
  "E3 E4 E5 E6 E7 E8 E9;1BC00 ACDAADV F9 F8 FG EEz EDJ EBz FD EDU FM FE EBm ED8Cc FUBn EEzCc EDJC",
  "z EBmBn ESS ERm47R E47R EcD ERmEW E5OR EiM E6Lj ECz Fc EEW EBn ECzCc FcCz EEWCz EBnEW ECzADBA ",
  "FcADBA EEWADBA ICRLcAaAq EBnADBA KA+ ECzBn FcBn EEWBn EBnBn ECzCcBn FcCzBn EEWCzBn EBnEWBn EEW",
  "BnADBA GCc IBn EBnDG IBm H8 IBm EDGBn HmBn EEN E6rX EENBm EBnCc Hz EDJBmBn FEBmBn EBnDJ IBm EA",
  "W ERmZf EYV EA6 E4Op EA- F9 EMC EE1A- EeD EHR ERmP3 E6MlA- ERmHR ECsA- EMi EAz EQ7 Emz EAzCc E",
  "CsAz E6MlAz Elc ERmAz E6CP EZf ERx EEw EKS Fy E6rP FsC EZkAz H6 H- HW E6E1H4 HP7 ERmF+ GH4 GFL",
  " EB+Cz;1BC70 ACDIpArCvS+ ETXCvS+ EAoCvS+ ECKBYS+ ETXBYS+ ECPBYS+ EK+S+ GYgS+ G6eV GFr GA9BX H-",
  "BX G6eVBX;1BC80 ACDIpCPDi GjnDi GFA GCsFA GBA H8 GE- GIb GBY;1BC90 ACDIpCKDi GjnDi GFA GCsFA G",
  "BA H8 GE- GIb GBY GAe;1BC9C ACDABA6ADGV C6ftAAYT CA4Au CDH4neGUEo AejekAAm0 E424m0 EB4k0 Flk0;",
  "1CF00 ABiAiAuZvS-BnPCFLAr GS-BnPCFLAr Gm1FLAr GZvS-FLAr GS-FLAr G6ZaFLAr GUVOQFLAr GOQFLAr GWn",
  "FLAr GUVOQBnWoFLAr GOQBnWoFLAr GWnBnWoFLAr GZvS-BnPCFLAo GS-BnPCFLAo Gm1FLAo GZvS-FLAo GS-FLAo",
  " G6ZaFLAo GUVOQFLAo GOQFLAo GWnFLAo GUVOQBnWoFLAo GOQBnWoFLAo GWnBnWoFLAo Gm1BnPC GUVOQBnPC Gm",
  "2UVOQ GOQBnPC Im2 GWnBnPC GUVOQm2 GZvWn G6wj GFL G6Km Gel G4WQ G6lT HGc G5ty Hp- Hmb G6wm HX7 ",
  "HKq GemFLAr;1CF30 ABiAiNlZBAu525 K6b2 Lh4 EAu6wR G4666wR G6Cm Gm3 IADBYBM H4 I6Gj G6Br HYt59m ",
  "HhF G5Bi E4QFBY6CD EAuLR6CD Gem EBvNlZBIY CZwBC5ss It Gen5Gv Hm Gmx;1CF50 ABiCo5pk H6gi E6D8 E",
  "5BdDM4nJ Fov E6wY Em5 GBn6Bz E6Ey HZx Em5AD6Yt59m E4nK E6DV ETA EZy4WR G6gi G527 G6b3 Hh5 ETBe",
  "o Gm6 GTC Gep GPqeo Im6 ITC Iep EA4TA ED74nK E47C E5nq Em4 F3 EPrm6 GTC Gep Hl E4665ov EPrPqTC",
  " G5ow GPqel GWpeo ITC IZx IPq Eeq GBnWq G6wW GBnPC Fm Emx ETa E5pC E6xW EPs GBnWq IPC IWqA-PC ",
  "IPCA-Wq G6wV JBnWq GBn6Mf I5Bj6wa IWqA-6Gb E6Gi EPsZx EIXeo G526 Hpl G6Gl Ger GZx G5oy Iw Gel6",
  "H8 GWp G5Bg Ih GWpPq G5BhPq GesADEQTA GWrADEQTA Ges GWr IADA4TA Get Ier EZz G6G4 G5o0 Iz Ix EI",
  "X6it Iu Iv EWs GTC Gep GPtTC HqTC IZx EIXPt Ier JsADEQTA IWrADEQTA Ies IWr KADA4TA Iet Ker I6i",
  "s E5p1 E6Bs E5BK F6H E6ER;1D000 ABLAmAMEX G45- GGx Gm7eu IUW H8eu IUW G5m3 G6c9 Gm9 G6vA JUW G",
  "5pi G4Oseu Gm+eu Goz GZ0 Gm- IUW G6c3 Hfz HCBLo GZ1Lo G6Hj G4ZV G6n4 GnALo GevLo GZ0Lo G6Pm HD",
  "+ HaT4Ow HCuLo HnyLo G4OvLo Iz Gew G6Lf HFbLo Hgn G4OI G6QK GnBLo I50L6aU G6CwLo Hfk G5sc Gex ",
  "G6h7 GnC G5pf G4Osm+Jp GL6Lo G5jq GeyLo G5m1ey G6El HHg G5pJ G4ntLo G6Ke GnDLo Gm9Lo G5Sd H4x ",
  "G6E+ G5pJnE GeynE G6aj G5La GnAJp G6CBJp Gm7Jp G6E- G5pT G6FA G5pg G6ElJp GZ0JpR2 GevJpR2 G6vC",
  " Gm-Jp G4Oy6c2Jp G6vB G5ph HC7 G4ZU G51fnA Gm8Jp G6FbJp HHgJp HCC G4Ok G5ue Gm9Jp GnDJp G5DynD",
  " Hqh G4Oj GeyJp G5C6 GnBJp G6c8 G4ntJp G5De G6QKJp Hs0ew HiQ HHf HiO IP HHh HiR HHi G5LF G4PM ",
  "G5Dy4PM G6CwJp Hfl5Dt Jm+ Ik4Ou IpUv4O0 G5m2 HDO G6ucUX JR2 HaT GewR2 GUWLo GnFLo InE IJp G4Ov",
  "Jp GZ2 GUW G6iF HfR Gfl GWt5DS4nx IexnG I6iEnG JfNnG I5jt4nx GZ1JpR2 IZ3nH K47O Gez IZ3nHUX MR",
  "2 K47O G6h- G4PL G5jo G47q GTD6Gh4PK I4PN KK I50Q KI JLE KG I6Gh5LE GOR6HbOS I4N16HbOS J7POS J",
  "N147POS I6iJOS Jh+ InIOS K5sYOS I5sYOS I6GFOS G5kX6fD5Se G4Oy6fD5Se GnJ6fQ I52c I470 GOR6n0OS ",
  "JHcOS JGFnIOS G5LJCc4Ou M8E HDJUvL66ps Hjp Ir GL6Lo47Q5Sf IUYCa K54x I542OS IUYLh InK47rLh IUY",
  "LA KOg KILUX MR2 I5yne0470 N52c G5GGnKe06n1 GL6nKe06cz I56I GnL6xp I5ou I6Y6 GL6A-UZ6fP I5DI4O",
  "i GUZ6iI Ha6iI JfP IZ2exTE I52dnCTE I474doTE I6iA6B-TE HZZ2exTE I52dnCTE I474doTE I6iA6B-TE G5",
  "JaUa KZ Ge1Z251e Lz4 IUW IZ4 GTFZ4 K48M K6iH LfS Ie2 K48M K6iH LfS G4735Jk I1Rx Gfn GUbCa I6ps",
  " IDI ILh JA IOg IIL GZ0Jp50J GevJp50J GZ0JpUX GevJpUX HwUX GZ1JpUX;1D100 AAmAMEQWu EA4Wu F3Wu ",
  "EK6A3Wu EOBWu EE1Wu EArRaAB FoRaAB ERaCR ELb6QJ EDC4YS E6QJ E4qW EnM5GI IJ IK Efm GA+ EnNAu E4",
  "X- FWe ECF E6CGSl Fj5Sl Ff+Sl E5HLSl FGbSl E6XuSl Gw5HU E5HN5HU EDEQl IWve3 KHp F2Ql EEzQl IWv",
  "e3 KHp EWJ4oe If;1D129 AAmAMN+UJL4 EA4TW H9 ET9Bl H4 EjYBl H4 ETWBl H4 EHtCLTW J9 E4qjnO ElXnO",
  " EWve3 GHp E6JEe3 HHp E53LL4 EnPL4 EByL4 EHtL4 FzL4 EVGL4 EmQL4 FPL4 EA2CM6jyL4 ED9KM EBkKM F8",
  "D9KM EAvKMBE IA8 ECwKMBlBE KA8 IArBE KA8 JoBE KA8 IB4BE KA8 JlAoBE MA8 EJKKMBE IA8 E6h8KMB4BE ",
  "LA8 EG4KM E6phKM EKMA8 EvkKM E4osKMBE JA8 EF4 EnPJk EByJk EHtJk FzJk EVGJk EmQJk FPJk EA2CM6jy",
  "Jk FiPk G6ZPPk Hh1 I2 I3 EnQ6h1 I2 I3 EAi4QJBA G5Gg Ih Ii Ij Ik ER04U2 EIr4U2 ER0Vo EIrVo ER06",
  "YN EIr6YN ER06FV EIr6FV EAiFH G6aD HfJ HaC G5y7 I8 G4Mq G5uG E4PYBl I4 EAi48s G6ML G5Gv G6YO G",
  "Ww GA4MQ GFxMQ E6MI FbP EDd E6Fa E50W FHI E43a F6s ElHJkMk IHiMk E6hm Ee4 EFRe4 Ee4Mk GBl EFY6",
  "ay I1 I2 I3 I4 I5 I6 I7 I8 Iz I0 E5M6 F6B EIrBP6ac EaPMk EAiB4Vy HlVy G5M2 G6YT6GD EnRAu GBlAu",
  " EBynRAu E5KyBl I4 EAD5GQ E451 HYn E5zW Ed- E4Wo EnSBE GA8 FT GA8 FUBE GA8 E5HiBE HA8 Ed-e5L4 ",
  "GWxL4 E4WoL4 EnSL4 FTL4 FUL4 ETGnVTHTIe5 MWx Me547+ GZ5THTIe5 MWx O47+ Q- P8A E43e E5LYD2Ql HE",
  "zQl EAvBD E6pT FGa E4ol E6Pr E4og E6hZ FGs H5Gt FPr5Gt FhZ6LZ FE66bV EPuD2Ql GIrBPSd GA3Jk G6K",
  "1Au GnPJk GByJk GHtJkPkB4 Nl HzJkPkB4 Nl GT9AB E6Ys E5pQ;1D200 AAkJREY6cE IP IZ Ig Io Iu Iv Iw",
  " Ix IF IG IH II IJ IK IL IM IN IO IQ IR IS IT IU Ip Iq Ir Is It CH+EY6cE IP Ig Io Iv Iw IG IH ",
  "II IJ IM IN IO IT IU IV IW IX IY Ia Ib Ic Id Ie If Ih Ii Ij Ik Il Im In Ip Iq Ir Is It BiAkAmv",
  "f Hg Hh BkAmWt;1D2E0 ALTEcDj EA2 F7 EBG FT Fa F5 ECE EB3 ECJ EEG EOt ENG ESe Ff EPe F8 ESg ERS",
  " ESh;1D300 ARVAsMm BWAs5NRMm EnWMm E5Clc1 HnW EMm AERAsFU EGUB8 E51u E4UO EynAC E428 FPo EjR E",
  "4WjMn F6vDe48T F8W E6u8 ElI E6Em EyV EWy FKO5 Eyd Fg E4M7 E6LH GW E5Cm EnX E422 E5DM FBb E4ZZ ",
  "F6p EAc6LX E6DI E5sZ E4om E5oS ElJ E6as FH2 E5He E6LV E5sHDe51- EvI E5K8BHym FDL E6ai E5LX FDQ",
  " EBJ E6MP E5Gu E6n2De6q+ E420 EUJ Ef2 E6l3 E479 EHFGn E5Lf ElJFg E5zN E4Mu E5DE FA6 EvV E6Xd E",
  "yo E47A Eyj E48B E5EH E6Ug Fae E5M1 ElK E4oo E5Fl E4NP Fqo EFLHI6oD E47y E5q8 FHK;1D360 AL7L8O",
  "wAQA2 J7 IBG JT Ja J5 ICE IB3 ICJ EPpAQA2 J7 IBG JT Ja J5 ICE IB3 ICJ AChUcAuA2 H7 GBG HT Ha A",
  "UcAuA2 EBa;1D400 AANAcAFAW GBD GD2 HU GA9 GEz GDE HV GA- GEW GDJ GBz GCz Hc GA6 GD8 GFw GBm Hn",
  " GDG GAz GDM GEN GD9 Hk Hd FCAW GBD GD2 HU GA9 GEz GDE HV GA- GEW GDJ GBz GCz Hc GA6 GD8 GFw G",
  "Bm Hn GDG GAz GDM GEN GD9 Hk Hd DwAFAW GBD GD2 HU GA9 GEz GDE HV GA- GEW GDJ GBz GCz Hc GA6 GD",
  "8 GFw GBm Hn GDG GAz GDM GEN GD9 Hk Hd FCAW GBD GD2 HU GA9 GEz GDE;1D456 AANAwACA- GEW GDJ GBz",
  " GCz Hc GA6 GD8 GFw GBm Hn GDG GAz GDM GEN GD9 Hk Hd DcAwAFAW IBD ID2 JU IA9 IEz IDE JV IA- IE",
  "W IDJ IBz ICz Jc IA6 ID8 IFw IBm Jn IDG IAz IDM IEN ID9 Jk Jd HCAW IBD ID2 JU IA9 IEz IDE JV I",
  "A- IEW IDJ IBz ICz Jc IA6 ID8 IFw IBm Jn IDG IAz IDM IEN ID9 Jk Jd DbAFAW;1D49E AANAbAFD2 HU;1",
  "D4A2 AANAbAFDE;1D4A5 AANAbAFEW GDJ;1D4A9 AANAbAFCc GA6 GD8 GFw;1D4AE AANAbAFBn GDG GAz GDM GEN",
  " GD9 Hk Hd FCAW GBD GD2 HU;1D4BB AANAbACEz;1D4BD AANAbACDV GA- GEW GDJ GBz GCz Hc;1D4C5 AANAbA",
  "CD8 GFw GBm Hn GDG GAz GDM GEN GD9 Hk Hd DcAbAFAW IBD ID2 JU IA9 IEz IDE JV IA- IEW IDJ IBz IC",
  "z Jc IA6 ID8 IFw IBm Jn IDG IAz IDM IEN ID9 Jk Jd HCAW IBD ID2 JU IA9 IEz IDE JV IA- IEW IDJ I",
  "Bz ICz Jc IA6 ID8 IFw IBm Jn IDG IAz IDM IEN ID9 Jk Jd CDOAFAW GBD;1D507 AANDOAFDU GA9 GEz GDE",
  ";1D50D AANDOAFEW GDJ GBz GCz Hc GA6 GD8 GFw;1D516 AANDOAFBn GDG GAz GDM GEN GD9 Hk;1D51E AANDO",
  "ACAW GBD GD2 HU GA9 GEz GDE HV GA- GEW GDJ GBz GCz Hc GA6 GD8 GFw GBm Hn GDG GAz GDM GEN GD9 H",
  "k Hd DWAFAW GBD;1D53B AANDWAFDU GA9 GEz GDE;1D540 AANDWAFA- GEW GDJ GBz GCz;1D546 AANDWAFA6;1D",
  "54A AANDWAFBn GDG GAz GDM GEN GD9 Hk;1D552 AANDWACAW GBD GD2 HU GA9 GEz GDE HV GA- GEW GDJ GBz",
  " GCz Hc GA6 GD8 GFw GBm Hn GDG GAz GDM GEN GD9 Hk Hd CAcDOAFAW IBD ID2 JU IA9 IEz IDE JV IA- I",
  "EW IDJ IBz ICz Jc IA6 ID8 IFw IBm Jn IDG IAz IDM IEN ID9 Jk Jd HCAW IBD ID2 JU IA9 IEz IDE JV ",
  "IA- IEW IDJ IBz ICz Jc IA6 ID8 IFw IBm Jn IDG IAz IDM IEN ID9 Jk Jd D0AFAW GBD GD2 HU GA9 GEz ",
  "GDE HV GA- GEW GDJ GBz GCz Hc GA6 GD8 GFw GBm Hn GDG GAz GDM GEN GD9 Hk Hd FCAW GBD GD2 HU GA9",
  " GEz GDE HV GA- GEW GDJ GBz GCz Hc GA6 GD8 GFw GBm Hn GDG GAz GDM GEN GD9 Hk Hd FcAFAW IBD ID2",
  " JU IA9 IEz IDE JV IA- IEW IDJ IBz ICz Jc IA6 ID8 IFw IBm Jn IDG IAz IDM IEN ID9 Jk Jd HCAW IB",
  "D ID2 JU IA9 IEz IDE JV IA- IEW IDJ IBz ICz Jc IA6 ID8 IFw IBm Jn IDG IAz IDM IEN ID9 Jk Jd Fw",
  "AFAW IBD ID2 JU IA9 IEz IDE JV IA- IEW IDJ IBz ICz Jc IA6 ID8 IFw IBm Jn IDG IAz IDM IEN ID9 J",
  "k Jd HCAW IBD ID2 JU IA9 IEz IDE JV IA- IEW IDJ IBz ICz Jc IA6 ID8 IFw IBm Jn IDG IAz IDM IEN ",
  "ID9 Jk Jd FcAwAFAW KBD KD2 LU KA9 KEz KDE LV KA- KEW KDJ KBz KCz Lc KA6 KD8 KFw KBm Ln KDG KAz",
  " KDM KEN KD9 Lk Ld JCAW KBD KD2 LU KA9 KEz KDE LV KA- KEW KDJ KBz KCz Lc KA6 KD8 KFw KBm Ln KD",
  "G KAz KDM KEN KD9 Lk Ld CFpAFAW GBD GD2 HU GA9 GEz GDE HV GA- GEW GDJ GBz GCz Hc GA6 GD8 GFw G",
  "Bm Hn GDG GAz GDM GEN GD9 Hk Hd FCAW GBD GD2 HU GA9 GEz GDE HV GA- GEW GDJ GBz GCz Hc GA6 GD8 ",
  "GFw GBm Hn GDG GAz GDM GEN GD9 Hk Hd CAwACK7A- IEW;1D6A8 AANAcAFE0 GLY GKm GLG GHv GNy GF9 GKD",
  " GGK GLp GNV GHc GIe GMz GI5 GGW GJU GKDAM GJt GLq GGr GKB GJu GMB GEu EVr EACE0 GLY GKm GLG G",
  "Hv GNy GF9 GKD GGK GLp GNV GHc GIe GMz GI5 GGW GJU GA3Jt GJt GLq GGr GKB GJu GMB GEu EVpVq EHv",
  "AM EKDAM ELpAM EKBAM EJUAM EGWAM DwAFE0 GLY GKm GLG GHv GNy GF9 GKD GGK GLp GNV GHc GIe GMz GI",
  "5 GGW GJU GKDAM GJt GLq GGr GKB GJu GMB GEu EVr EACE0 GLY GKm GLG GHv GNy GF9 GKD GGK GLp GNV ",
  "GHc GIe GMz GI5 GGW GJU GA3Jt GJt GLq GGr GKB GJu GMB GEu EVpVq EHvAM EKDAM ELpAM EKBAM EJUAM ",
  "EGWAM DcAwAFE0 ILY IKm ILG IHv INy IF9 IKD IGK ILp INV IHc IIe IMz II5 IGW IJU IKDAM IJt ILq I",
  "Gr IKB IJu IMB IEu GVr GACE0 ILY IKm ILG IHv INy IF9 IKD IGK ILp INV IHc IIe IMz II5 IGW IJU I",
  "A3Jt IJt ILq IGr IKB IJu IMB IEu GVpVq GHvAM GKDAM GLpAM GKBAM GJUAM GGWAM D0AcAFE0 ILY IKm IL",
  "G IHv INy IF9 IKD IGK ILp INV IHc IIe IMz II5 IGW IJU IKDAM IJt ILq IGr IKB IJu IMB IEu GVr GA",
  "CE0 ILY IKm ILG IHv INy IF9 IKD IGK ILp INV IHc IIe IMz II5 IGW IJU IA3Jt IJt ILq IGr IKB IJu ",
  "IMB IEu GVpVq GHvAM GKDAM GLpAM GKBAM GJUAM GGWAM GAwAFE0 KLY KKm KLG KHv KNy KF9 KKD KGK KLp ",
  "KNV KHc KIe KMz KI5 KGW KJU KKDAM KJt KLq KGr KKB KJu KMB KEu IVr IACE0 KLY KKm KLG KHv KNy KF",
  "9 KKD KGK KLp KNV KHc KIe KMz KI5 KGW KJU KA3Jt KJt KLq KGr KKB KJu KMB KEu IVpVq IHvAM IKDAM ",
  "ILpAM IKBAM IJUAM IGWAM DcAFUu FCUu;1D7CE AANAcAQDj GA2 H7 GBG HT Ha H5 GCE GB3 GCJ CDWAQDj GA",
  "2 H7 GBG HT Ha H5 GCE GB3 GCJ CA0AQDj GA2 H7 GBG HT Ha H5 GCE GB3 GCJ FcAQDj IA2 J7 IBG JT Ja ",
  "J5 ICE IB3 ICJ CFpAQDj GA2 H7 GBG HT Ha H5 GCE GB3 GCJ BXCdBu CMVBu CNRBu CTJBu CI1Bu CL9Bu CC",
  "dBuJA CMVBuJA CCdCUQLBuJA EBuIRe6 GWz GLU ICK CMVBu5OL CCdBuBR CMVBuBR CCdBuBRJA IIRnY ILU HlB",
  "RLU GLUBRBl GBRJS KBuJA LRJA KWz KLU IOK CMVBuBROK CCdBRJACWBu FuJACWBR GBRCU CMVBuBRCU CCdBuB",
  "RIBCUJA IJACUIB ICUJA ILUMuCUIG HlBRLUCUIG OJS GLUBRBlCUIG GBRBlMuCUL+ ICUWz KAy KV8 KLU ECUJ2",
  "BuBRIB EBuBRJSCUIG OJS PA FRCUV8BuBl FuCUV8BRBl GBRJSLUCUIG IOKCUIG IJSCUL+ KWzCUL+ FRCUWzBuBl",
  " FuCUWzBRBl FRCUAyBuBl MLU FuCUUdMnBRBl KFgBRBl IAyBRBl GBRCUJSLU KUdMn M FRCUUdMnBuBl OOK KBu",
  "Bl FuCUV8BRLU CJqBTI2 IJA ILU IJS KW0 CTKBTI2JS CCdBTI2JSJA CI1BTI2JS CJqBaI2Mu EUeBaI2Mu EBaI",
  "2MuBTJA EUeBaI2MuBTJA EBaI2MuJA EUeBaI2MuJA EBaI2MuCUL+ CNRBaI2Mu KC0 CI1BaI2MuC0 CTJBaI2Mu CJ",
  "qBaI2MuLU MCUIG MHiCU E EJ2WC5Ff EUe ECUIG EUeCUIG ECUJA GL+ EW0BuCUIG GFU ICUIG MJA GE7 CTK E",
  "CUIG EHiCU ECUL+ CQm43y E CNRC0 E EC0CUIG FUIG F0HiCU EHiCU EC0CUL+ FUL+ Ce7C0 E CMV CTJ ECUIG",
  " EHiCU ECUL+ CI1C0 GCUL+ E EAC EC0CUIG FUIG F0HiCU EHiCU ECUIG6hgBu GJ2BRCi CL9 CCdBuBRCi CMVB",
  "uBRCi CI1BuBRCi CL9BuBRCi CI1E7 CCdBuBRCiJA LS CI1BuBRCiJS CCdE7B4 I6MMIB LLR JClAy Hl ECUQLE7",
  "Bl CMVE7Bl CTJE7Bl CL9E7Bl CCdE7IRe6 GJA G6hfCU GCU CI1E7CU CCdE7BuCU CI1E7BuCU CL9E7BuCUBuCUM",
  "n O CCdE7Bu CMVE7Bu CI1E7Bu CL9E7Bu CCdBuBRE7 CMVBuBRE7 CI1BuBRE7 ECi CL9BuBRE7 CCdBuBRGVE7 CM",
  "VBuBRGVE7 CCdCiB4 CI1CiB4BuCUBXBR CL9CiB4BRCUBuGV CCdCiBl GIRe6 GE7 CMVCiE7 CTJCiE7 CL9CiE7 CC",
  "dCiBR IJS IIRnY Hu GCU CQmCiCU CCdBuCiE7 CMVBuCiE7 Ce7BuCiE7FL CQmBuCiE7Mn KFg KQL CNRBuCiE7 C",
  "I1BuCiE7 CL9BuCiE7Mn K CCdBRB4 CI1BR CCdBRBl CMVBRBl CCdBRIRe6 GBlCUIG CQmBRCU CCdBRCUE7 GE7 G",
  "CiE7 CMVBRCiE7 Ce7BRCiE7FL CNRBRCiE7 CI1BRCiE7 CL9BRCiE7Mn KFg K CMVBRCiE7JA CTKBRCiE7JS MIG C",
  "QmBRCiE7JSMn MFg M CI1BuLU CCdBuCUIG CI1BuCUIG CCdBuCUIGCUC+ MJS NA KBuJA K4WTJA KBu5OL IL+BuI",
  "B MJA IBX I43y IHqCULc CTKBuCUHqCULc CCdBuCUHqCUQL IB8 CNRBuCU IC0 CI1BuCUC0 IDm I IAC CL9BuCU",
  "Mn IFg I CCdCU GUe GIGC+ IJS JA GL+ GJ2BuBR JRCi ICiE7 GQLA7I2 GCWA7I2 GQLBGI2 JTI2 GCWBTIRnY ",
  "E EUe CnZEQ EN+ EJ2 DaEQ EN+ EJ2 DbEQ EN+ EJ2 CWGEQ EN+ EJ2 CarEQ EN+ EJ2 CjBnc EJ2 CW1DmEQ EA",
  "CEQ EDmN+ EACN+ Ee8 D2DmEQ EACEQ EDmN+ EACN+ Ee8 D1W2Kk CUfBlB4Dm IAC Ge8 F4e8 FlB4KkDm KAC EI",
  "GBHIGV2 CEEQnWy DhQnWy DEEQIBAC IC8 IDm IRn GNrQo EA4IB GNrQo GKk INrQo EGV EFxIBTL GNrQo GKk ",
  "INrQo EWwAC GC8 GDm EH7AC GC8 GDm GMv ENoAC GC8 GDm EBpAC GC8 GDm EOaAC GC8 GDm EW3AC GC8 GDm ",
  "CQpNSEQ GA4 GKk FTEQ GA4 GKk Ee9 EK1UIEQ IA4 IFx CMwTMAC GC8 GDm GRn FNAC GC8 GDm GRn EJ2TMAC ",
  "IC8 IDm IRn HNAC IC8 IDm IRn CEhEQIBAC IC8 IDm IRn GNrQo EA4IB GNrQo GKk INrQo EGV EFxIBTL GNr",
  "Qo GKkTL INrQo EWw EH7AC GC8 GDm ENo EBpAC GC8 GDm EOaAC GC8 GDm EW3AC GC8 GDm CUgNTEQ GA4 GKk",
  " FSEQ GA4 GKk Ee9 CEEHqHtAC IC8 IDm IRn GZ6AC IC8 IDm IRn G6gAB8AC LC8 ENsAC GC8 GDm EJdAC GC8",
  " GDm GACA4 EIbHqA4AC KC8 KDm IFxAC KC8 KDm EHqRZIB ELRGVAC IC8 CNSEQ EA4 EHl CEEe9 EHqGMRoLy E",
  "NsGMRoLy EJdGMRoLy EIbGMRoLy CNSEQGMRoLy EA4GMRoLy EKkGMRoLy CEEHqGMUh ENsGMUh EJdGMUh EIbGMUh",
  " CNSEQGMUh EA4GMUh EKkGMUh CEEIbC+Y+AC KC8 KDm DhHqGMMOAC KDm ENsGMMOACA4 KDmA4 KACFx KDmFx EJ",
  "dGMMOACEQ KDmEQ KACA4 KDmA4 EIbGMMOAC KDm CNTEQGMMO EA4GMMO EKkGMMO CEhHqGML0AC KDm ENsGML0ACA",
  "4 KDmA4 KFxACFx MDmFx EJdGML0ACEQ KDmEQ KACA4 KDmA4 EIbGML0AC KDm CNTEQGML0 EA4GML0 EKkGML0 CE",
  "hHqAC GC8 GDm GRn G4qg ENsAC EJdAC EIbcW GAC GDm CNTEQ EA4 EKk CEhe9QJ DEK1B8ACEQ IC8EQ IACA4 ",
  "IC8A4 DhK1B8GMLyACEQ MC8EQ MDmEQ MACA4 MC8A4 MDmA4 DENrB8RoEQ KA4 DhNrB8GMLyEQ MA4 DEQnMSEQ IA",
  "4 DhQnMSGMLyEQ MA4 CQqEjAC GDm E5Fv EwP EUi E6LG FXa HKk E5EB6CknO FLM CJV E6MF EEEIB G6gk FhI",
  "B FEHq FhHq ETLB8 CBtenVuPnL+e+ KBlDeB4 Qe+ CUjIBBl GHT GB4 Ce-UjHTB4 GB4HT HlHT GHTBl CndHT E",
  "Wy EUk CJ+C0 E6ZW EHF CQO4V3EQ HN+ CJ+ByC0 EOrC0 EByHF E6riTL CQO6rq CneBl F4 E5G0 CZ7IB GA4 G",
  "Kk CfAIB GA4 GKk CZ7LR CfALR CZ7wy CW46Hq EHT E6bX CUiW4CP GBR GCK C5Ck CPnHT EWy Enf E6rj CWU",
  "4WDMn E6bYFg E4WBAC6Mt E6bWAC6Mt CnN5j- FEG CGnHFHT GL+ GWy EYs GUk GC0 Ecr GUk GC0 EC0B8 GL+ ",
  "GUk GZE IUk I6uE GRQ IUk I6uE EW5 GL+ GUk EUi GL+ G6bX CTO6HIdm CdsBvCWB1 F1CWBv CGnVz EnfEQ G",
  "A4 CMQ6aaMn5Fu E5s7TO ELEJ2TO G6hgLcGn FcGn6LG E52z4NM4nC EFU6aaMn GLcGn CUl ETL EFLMQ ITL GTO",
  " ITL E4VxTO CEE5ku Dh5ku C56C CT2 C5EF CZ8VK6ZE HGv C6qzZ8VK52x C5GwZ8VK52x CZ8e+IE6qy C6hdIB6",
  "at FLRWw Ec6j3 CB1x9e+IEVK5lc CTP4qf E5se Gf Gg Gh Gi Gj Gk CQn C5tpKl EoKl CSp5NU EPb E47B EJ",
  "V56C E6hb E5tI472 CFq CGUEo COT CId CG4;1DA9B AAXL152L GM GN GO GP;1DAA1 AAXMv52L GM GN GO GP ",
  "GQ GR GS GE GF GG GH GI GJ GK;1DF00 AAHACAAfjIqAD6iC GD7AbDE DAACAFCjDE DCAAD7DJ DAACAFBzADPG ",
  "DCAAaTADHOBX GCjDkADPG GD7OW GCjBmADCsLHAaHOBX GDGADBXAaHOBX DAHOPFADHOBX DCAALWADA4B7 OAaKn G",
  "CjDGADKn DAFRIHEoADKn EKCD2ADKn EACAFCjDJ DCAABzADRy GaUIqADJEBX GBzADPGAaJEBX GOWADJEBX GCjBm",
  "ADJEBX GBmADRyAaJEBX GaWIqADJEBX GOXADJEBX GaUIqADHOBX GA-ADBMAaHOBX H6ADHOBX GaWIqADHOBX GD2A",
  "DHOBX GBnADKn;1E000 AAiCSAAj3 H4 H5 H6 H7 H8 H9;1E008 AAiCSAAj+ GV+ GBbV+ GA- Gj- GkA HB GZG G",
  "kC HD HE HF HG HH HI HJ HK;1E01B AAiCSAAkL GTw GZH GEp GPJ GdL GkM;1E023 AAiCSAAHd GACIs;1E026",
  " AAiCSAAIh GV-ACIs GM2Is GV-M2Is GTa;1E100 AE9E+BdAACq II7 I5+U IC3 JG Jx INA I58j IEv ICu J7 ",
  "IGe I55c J+c IBe IDC IFV Iih IGG I5+h I6j7 IHW ICe ILI IC1 I59p ICa IxW I59n Ib6 I59o ICn Iuf ",
  "Ia4 IDI ILK IAW IDw IA- Jz J6 IGs IA9 IHR IEN;1E130 AE9E+Bd6hM IQ IP IS IR IO IN GABAsK0 K6fv ",
  "KSp K4OY K5kL Imzmz HEd1;1E140 AE9E+BdAQDj IA2 J7 IBG JT Ja J5 ICE IB3 ICJ;1E14E AE9E+BdSz5-T ",
  "GAyEv;1E290 AI3AACa EDl EC3 EDC EBe EDI ECq Fx EEk EC7 EFS EC1 EEw Fq ECG Fe Fu EA- EZ9A- FP F",
  "9ZP EAz F9 EZ9A9 EX8 EZ9X8 EA6 EIZ EZ9IZ EAW DBM6CL;1E2C0 AF2AADw EAW EDl EEv EDC FI EC1 EGF E",
  "Cu Fx Fa F3 EFs EHW EC7 EEp Fq EGe EEw EGG EBe EA6 EEl ECe Fq EFW ECG EA9 F- EEk EAz E5ti EI7 ",
  "Eif EyF E4LM EN4 EiP EFL F+ E3i EFV E6lZ Fuk CCLzA E6ji El6 E5pF CAQDj EA2 F7 EBG FT Fa F5 ECE",
  " EB3 ECJ;1E2FF AF257UAB;1E7E0 AAlAE5Nt Gz Gx Gu Gw Gv Gy;1E7E8 AAlAEL-rx E5Ns Gr Gq;1E7ED AAlA",
  "EL-b4 GsQ;1E7F0 AAlAEL-r0 H1 H2 GsR HS Gbs Gr9 Gbu GsG HH HI HT HU Gb5 GsV;1E800 ABVBWAE5umKU ",
  "IpBe IqKw Hv8he HwaLA IHYM HvrKF Hxu5pw HusKy ItEw IuPW Hw5bv IxJv ItYH HvoKS Hx96sN IK6rP Hv4",
  "6sV Is6sT HxG6sU Huvea IwKx Ix53O Hv2PK HwZN7 HxVts I453F HuyLf I0Dl I1J1 HxRVW HwcM0 Iiz7 HxF",
  "Oj Hu+A- I-AW HvAAz HxeHR HwfA9 HxgGs IOA6 IEQ5 Hw+Fg HxCFg I+H4 ItF+ HvHKf IIC7 IJKv HxdTr Hw",
  "vKz HxDYO HwKJy Hx-6XL HvPFX IQCu IRJ0 HwPbj IEGk HvxVe HxULM HwpCsGk HvCLh IEDC IGLg HwUVa Hx",
  "vz- IwLL HvKLe IMC3 INKH HwWVX HvyH2 HwjVd IABH HvSSR IUEq IVTu HxYVb HwsOb Hxb0C Hv6PY HxqCsP",
  "Y HvWAJ IYC1 IZHd HwoVZ ILMi HxIb9 Hw0Ih HvcPR IdHW IeRE HwJTx IGOf HxAiF HwTPU HyA5HZ Hwgqc H",
  "vfmk Ig54w IhF0 Hwwgs Hxk59V IrH6 HvkCG Hx1Nk Hvibi HwbHV HvlYP HxHJe HwO5NT I75P6 Hvwz0 Hw9z4",
  " IS0E Hvv0L Hx8lB Hvp5Q8 HwVz3 HvmZV HwNlj Iuzz HxNlm IXlg Hwzll Hxa56i Hw656s IRCslm IlCslg H",
  "xyCsll IWKT HwqDI HxjMI I5YE Ih5Lh Ii5Ld Iz0K Hv00G Hxs57S Hv-GW HweCa HvtN8 HwMRF HvuGy HwhYJ",
  " Hv9Lt HxMle Hv5Yb Hw1lh Hvqdw Hx3dw HwDdz Hxnlf Iplk I25zr IcCsdz HwkCslf HxJCslk Hw-z1 IXZT ",
  "IF0F Hvnzx Hwn0M Irz8 HxZdx Hw3z2 HvzgO HxPli HwYzy Imd0 ICz9 IB0I HxmCe Hw2lR I8Vk I4dr Hx6ld",
  " Hwydq Hv+0A I7lT HxTz6 I7la IQZU IB0D IxRC I0GG ISTs IoSQ HwQMD HxLz+ HwIP4 Hxf5-d Hv15-U Hxl",
  "5-o Hwd5-X Hv35-j;1E8C7 ABVBWAQA2 H7 GBG HT Ha H5 GCE GB3 GCJ FiAg6e8 IPp ImO IR6 IEGR6 ICMR6 ",
  "ITb;1E900 AD1AFAAng G45i Gmw G51c GDl G6Xe GGy Gdy GCe GA9 GHW GA- H6 GGt G6ue GHQ GF0 GGf GC1",
  " GAz G5lC GJu GCG GmH GDI GFV GKH GWR GGG GFW Gd0 GcP Gdx GEp DCAAng G45i Gmw G51c GDl G6Xe GG",
  "y Gdy GCe GA9 GHW GA- H6 GGt G6ue GHQ GF0 GGf GC1 GAz G5lC GJu GCG GmH GDI GFV GKH GWR GGG GFW",
  " Gd0 GcP Gdx GEp Cngd1 CASd1 CXmAu CES CDzBC C5JUDzBC CKE CgRAu;1E950 AD1AQDj EA2 F7 EBG FT Fa",
  " F5 ECE EB3 ECJ;1E95E AD1BbJsAu FCAu;1EC71 AEeCXAgA2 H7 GBG HT Ha H5 GCE GB3 GCJ GEG GGl GI9 G",
  "Jh GIN GMJ GIV GNB GH0 GA2CM H7CM GBGCM HTCM HaCM H5CM GCECM GB3CM GCJCM GA2Ct H7Ct GBGCt HTCt",
  " HaCt H5Ct GCECt GB3Ct GCJCt GEGCt GGlCt GI9Ct GJhCt GINCt GMJCt GIVCt GNBCt GH0Ct Gnh G5rz En",
  "hAu EAg5mw Ix GQeA2 J7 IBG JT Ja J5 ICE IB3 ICJ El2 EDPA2Ht IBy GBGMx ESCAu EAgHlA2 J7 IEGCt E",
  "HlnhAu;1ED01 AFtCXAgA2 H7 GBG HT Ha H5 GCE GB3 GCJ GEG GGl GI9 GJh GIN GMJ GIV GNB GH0 GA2CM H",
  "7CM GBGCM HTCM HaCM H5CM GCECM GB3CM GCJCM GA2Ct H7Ct GBGCt HTCt HaCt H5Ct GCECt GB3Ct GCJCt G",
  "EGCt GGlCt GI9Ct GJhCt GINCt GMJCt GIVCt GNBCt GH0Ct E5zB EHlAgA7 IBG JT Ja J5 ICE IB3 ICJ IEG",
  " IBTCM J5CM IA7Ct IEGCt EDPA2By Ii7;1EE00 AAIANB6 EG- EDF ELb;1EE05 AAIANHQ EMd ECn EHf EBg EG",
  "f EEr EBc EFK EGZ EHA Fx EIT FC EHw FG EGN EKR EFJ ER+ EIf ENa EJx EK7G- GFK GHx GIC;1EE21 AAI",
  "ANBbG- GDF;1EE24 AAIANBbGj;1EE27 AAIANBbCn;1EE29 AAIANBbBg GGf GEr GBc GFK GGZ GHA Hx GIT HC;1",
  "EE34 AAIANBbHG GGN GKR GFJ;1EE39 AAIANBbIf;1EE3B AAIANBbJx;1EE42 AAIANMqDF;1EE47 AAIANMqCn;1EE",
  "49 AAIANMqBg;1EE4B AAIANMqEr;1EE4D AAIANMqFK GGZ GHA;1EE51 AAIANMqIT HC;1EE54 AAIANMqHG;1EE57 ",
  "AAIANMqFJ;1EE59 AAIANMqIf;1EE5B AAIANMqJx;1EE5D AAIANMqK7FK;1EE5F AAIANMqK7IC;1EE61 AAIANKCG- ",
  "GDF;1EE64 AAIANKCGj;1EE67 AAIANKCCn GHf GBg GGf;1EE6C AAIANKCBc GFK GGZ GHA Hx GIT HC;1EE74 AA",
  "IANKCHG GGN GKR GFJ;1EE79 AAIANKCIf GNa GJx GK7G-;1EE7E AAIANKCK7Hx;1EE80 AAIANJrB6 GG- GDF GL",
  "b GGj GHQ GMd GCn GHf GBg;1EE8B AAIANJrEr GBc GFK GGZ GHA Hx GIT HC GHw HG GGN GKR GFJ GR+ GIf",
  " GNa GJx;1EEA1 AAIANDWG- GDF GLb;1EEA5 AAIANDWHQ GMd GCn GHf GBg;1EEAB AAIANDWEr GBc GFK GGZ G",
  "HA Hx GIT HC GHw HG GGN GKR GFJ GR+ GIf GNa GJx;1EEF0 AAIANG2BcADCnADU8 GCnADLb;1F000 AHJCBFhP",
  "j ED0Pj EGHPj EDAPj ELjSv ETQSv EBESv EA2BPRp F7BPRp EBGBPRp FTBPRp FaBPRp F5BPRp ECEBPRp EB3B",
  "PRp ECJBPRp EA2BPRq F7BPRq EBGBPRq FTBPRq FaBPRq F5BPRq ECEBPRq EB3BPRq ECJBPRq EA2BPMS F7BPMS",
  " EBGBPMS FTBPMS FaBPMS F5BPMS ECEBPMS EB3BPMS ECJBPMS E6GR FCc Ekk E4ny E6ZQ Fbf E4QU E6rs EfB",
  " EO5;1F030 ADLCBCvO5 E5P8 G9 G+ G- FQA GB GC GD GE GF GG GH GI GJ GK GL GM GN GO GP GQ GR GS G",
  "T GU GV GW GX GY GZ Ga Gb Gc Gd Ge Gf Gg Gh Gi Gj Gk Gl Gm Gn Go Gp Gq Gr Gs EBYO5 E6oF GG GH ",
  "GI GJ GK GL GM GN GO GP GQ GR GS GT GU GV GW GX GY GZ Ga Gb Gc Gd Ge Gf Gg Gh Gi Gj Gk Gl Gm G",
  "n Go Gp Gq Gr Gs Gt Gu Gv Gw Gx Gy Gz G0 G1;1F0A0 AEJD6O5 EfCBPNt EA7BPNt EBGBPNt FTBPNt FaBPN",
  "t F5BPNt ECEBPNt EB3BPNt ECJBPNt EEGBPNt EfDBPNt EJYBPNt EMpBPNt EL2BPNt;1F0B1 AEJD6fCBPMW EA7",
  "BPMW EBGBPMW FTBPMW FaBPMW F5BPMW ECEBPMW EB3BPMW ECJBPMW EEGBPMW EfDBPMW EJYBPMW EMpBPMW EL2B",
  "PMW FjfB;1F0C1 AEJD6fCBPNu EA7BPNu EBGBPNu FTBPNu FaBPNu F5BPNu ECEBPNu EB3BPNu ECJBPNu EEGBPN",
  "u EfDBPNu EJYBPNu EMpBPNu EL2BPNu EA8fB;1F0D1 AEJD6fCBPNv EA7BPNv EBGBPNv FTBPNv FaBPNv F5BPNv",
  " ECEBPNv EB3BPNv ECJBPNv EEGBPNv EfDBPNv EJYBPNv EMpBPNv EL2BPNv EBEfB E5G+ E6iU Gf Gi Gj Gk G",
  "l Gm Gn Go GV GW GX GY GZ Ga Gb Gc Gd Ge Gg Gh;1F100 AAQDjGUEo EFq CA2Fq D7Fq CBGFq DTFq DaFq ",
  "D5Fq CCEFq CB3Fq CCJFq AIkAyA0AQDj CDSAyA0AQDj AAyDjADMk CLDAe CTVABADk4T5 ACIAHAFAAAW IBD ID2",
  " JU IA9 IEz IDE JV IA- IEW IDJ IBz ICz Jc IA6 ID8 IFw IBm Jn IDG IAz IDM IEN ID9 Jk Jd AJ5IiQr",
  "AHAFAABn AAyAwAHAFAAD2 KBm Cyc C6sW A43FAM ABoAHAFAAAW IBD ID2 JU IA9 IEz IDE JV IA- IEW IDJ I",
  "Bz ICz Jc IA6 ID8 IFw IBm Jn IDG IAz IDM IEN ID9 Jk Jd CaR CYG C6P5 CeB C6G- DrE ADSAyAHAFAAAW",
  " KBD KD2 LU KA9 KEz KDE LV KA- KEW KDJ KBz KCz Lc KA6 KD8 KFw KBm Ln KDG KAz KDM KEN KD9 Lk Ld",
  " AIR5zsAB EtAB D24AB AAyyb CD2ADk4T5 CnWSX ADSBoAHAFAAAW KBD KD2 LU KA9 KEz KDE LV KA- KEW KDJ",
  " KBz KCz Lc KA6 KD8 KFw KBm Ln KDG KAz KDM KEN KD9 Lk Ld AOKDSBoAHAFAAD8 ADSBomK ECa F7 EK9 E6",
  "rE AAv48e ABo4oV D3B CYS C5Sg CD4 CLJ CfE C6Yu CBlADJsAu C6px CBGDU CRbYj CA7DJ CBTDJ D3DJ DaJ",
  "fA2 CCEJfA2 ClDJfA7 CMJD8 CA2CMGlD8 DHACAADU C5NA EB E7 DuB C6W8 Dle Dpf AnikyAM;1F1E6 AJ-IYAM",
  "AAAW IBD ID2 JU IA9 IEz IDE JV IA- IEW IDJ IBz ICz Jc IA6 ID8 IFw IBm Jn IDG IAz IDM IEN ID9 J",
  "k Jd AAvDh5Px ABoBN5pH EC7;1F210 ABoALGY5bV IR IJ CBNKp CALGY5bC IP Ir IQ ID Id Ik Ib IG IU IE",
  " Ic IF Iq Il Is IO IM Ii IX IZ Ha- HbA Iu IT IB IK IY It IW Io Ip IL Ih If Ie Im IH IN Iv;1F24",
  "0 AJ5IiQrALGY5bg MA MC MS Mj MW Mn MI Ma;1F250 AAyDp4M8 Gr;1F260 AM3AMAsRE GJ0 G6Wg GMz G6Wt G",
  "4YB;1F300 A439 A5G3 AHFYz AdiAD6aO A6biCW52w D A4oSJc5BZ A6bjCW4W6 BKZ AUsJcdi ANpIb A6pj A51j",
  "YU AMmfF5D9 E4OA FPt AfFAD50G AD4JKAM A6rCV0JKAM ARJHtJKAM A6rC5KcJKAM AGUJKAM A6q45KcJKAM AjW",
  "HtJKAM A6q4V0JKAM AV0JK AD4JKADBt ARJHtJKADBt AjWHtJKADBt AGUJKADBt AMoADBt A5K1Fy A6WSFy Bfo ",
  "AA85BF ABEMo EADACQP EjdQP IADT8 AQPADT8 Ejc EY0 E6ha A5G2 APj4WDBt AY1WE A6eG A4XJ BnR A6QG A",
  "5EAQX A46oQX AWCQX A4X9 AY16Ex A6ja A4nP4WA A6Mq A5N8 A6bg A4WA AT1BP5ym EWI A5Ne ABTK34op A5y",
  "4K3 BFpK3 AK35G0FgPj A53d A6hJ A4QI A5LR Axz A6rA BeW A5sd A4UC A6F4 ALj4O1 ATQ4O1 A6Ec CZ A4n",
  "O A6aq A5Mo AxyBP6GC AdVFLdZ A6G2LH AWI43W CO1 A42+WI B30AaWI A6aVnj BY2 A4Wk Au+5HX A6Mcx06Gz",
  " A454 A6B3 Bby A5HW6Wo AQTnkADZj47I ANUSn43Y A6VySn ASn43Y A5A7 A42- BnoB7 BYL A5tw A432 A5P1d",
  "p A6Wd A4VJBp AdpBPfG A43A AcyAaWD A6e0Y41D BO9fHAaYq AdeW6 A4qUW6 A6iT5BB A4U-eb Boj4U-53G AW",
  "7fH AcyAaWDAD6GJ AfHAD6Gr43H A6Gp APm A6sF6HH A4Vpnk A5kl AnlQX Axxnl A5GV CU6Y3 Anm Bn6Gq A42",
  "sO1 A6eTQX AOK5Gl A6F346q ASo48v A4Ya6ar APj4nc AJK6pK4ZN Ak-6Pb A5LNck AI-ADLEFLHIAr A4WXBP5G",
  "x AnoZ+ A6LLPm AAmYuAD5km A6a951M AyB6YG AVx5o5 Ac5v1AmY3 CgQAmY3 A5GP5HR A4M46gZ BYZRc A5F9c2",
  " A6Mi4qR A5GYY-AaQT B1M B20fI A4oM A5NM A4Ph6DU AGzUD A4oPji A6gY A4oYZ- A6Ez4Pi BpB5I1 AjKzQ ",
  "A6YKnp A4Vk A5I1Sk A4WZ AYiEJ4YX AAmJk AN+AmY3 A6Pn A5Lj AAmYu A6ip BpR AAm6Px Anq6WLAD6Pa A6f",
  "I6KNAaO1 BX4Aa6X44WJ A4USAa5P4 BnNO0 A6YV BNa Bbv BZMZ+ BiS ARcnr A4N-5G- A6NS5G- Bb6 AWS5tB A",
  "5K+ Anr52s CSm A43blMAaO1 A6pk Ax15PvTRAaO1 ASn5PvTRAa6Hp Akc6fI6DJAaO1 Ajc4YTSj A4YI BU0ADYz ",
  "AaAns AVt4W6 A4oS B7DVtaA BoaaA B7G D5kb Au86D- A6aF AVtaA CAD5I7 AntaA ASonunt A5D+nunt BQw A",
  "jP A4QS6fCnp A5Qy Anv5Qy A4296ah Ak- A46-6ah A5Fh Bkk5r7 ASojh A5D+jh ABE6Eq AA86Eq AnwBEO0 CA",
  "8O0 AmE AA8mE A5q6 A4Tz6KNAa6W6 AVyAaAe A4OC ARrBCaB6kE Gv- GwA HB HC Adf AUm Adn ANp4W4 AZK A",
  "dX A5sm A6KL AOM ASv A43c A6rY BYS AcW ARc AdU A5K5 Akm AaC A6Mo A4nW AWE Add A1c Anx A6B2 AUI",
  "Ii A4W5 BOf A5P2 BrB4VB AQT A6iTQT A4WC AZN A5M4ny AW7ny A5HYW7ny Ada A6Eo A5pA A6Gn A5BC4YG A",
  "4Tx4YG B8w AUmBt AZKBt AdXBt A6KLBt AOMBt ASvBt A6ZO6rY ARcBt AaCBt AWEBt AddBt AktBt A5MqBt A",
  "6r3Bt A4U5Bt A6DjBt AddPn Akh6HO A4nf AJ+ AQO AT1 APn AGn AMQ ABEBlEdTSBu D4EdTSBu CArEdTSBu D",
  "oEdTSBu A5GZIuAB AnwIuAB AfEIuAB BJBlAB D4AB A4oZRdAB AC0RdAB A43f AfKUD A5ET B6D A6dN A5kx BA",
  "- BoQ A4Vi AfKkn A6H4 A5Ms A6G1 A5yyT6 A4P9T6 A5OGT6 AfK6PS C4WK A5HA A4XNFgfL COFgfL BWb A5Kp",
  " AKx ASw Ayk AKxAaSwWKRd AA7PKWKRd C6r4WKRd AfM6B7 ASwAD4XC5Ck A4WqAD6n- AK0AD4V-T2 BxAD5LcGW5",
  "y3 Ext AnzKx CSw AW7 Ans6r9 A6HM ASo6B9 C5K6 Akr AW74OL A5EP4Nu A4Nu52g A5jv AjT Ai447JK0 A5Lg",
  " A452 A5tX B4sl1 ABt5zM A5Mf A4UKY- A6c7 BFx AW5Au AnvAA ACi A5JTk2 AW5 A4WX B3SADI- A6rM A4U7",
  "I- AUqI- AA7MW A6Y5I- A5LbI- AI-ADAe ASuI- ATQI- AZMI- An0I- AI-ADPm A6LhMW AI-46q AG16VvADAWB",
  "ALc AcoB-4W7 An1AM A4WG An2AM A4qbAM A6ZGfNAM A5BF AHYAM A6FwBPYJ A5Gs4VZ A48dAM AUEnm An3nm A",
  "BEYi ACM6GfAM A52Xcn APv5EE ABQTVAB AgdD6 AfOADXFAB ETVAB EvAAB EaOAB A52XAD6ro AaDADC-n4AaXFA",
  "B A6QB BE3n5 A4Wr A51o AfPaE A6CZGp A5Be AYxUn AC0YxUn AQNADKn CaFBl An6 A6e3n6 AD6Bu AaDADC-n",
  "4 F6n4 AB7aD A4ok An7 ANzn7 A6D3 AIB6NY AKo6NY A4WH6eF A5sT B9f DAD46rku AHFW8 AC0W8 ATQW8 ASu",
  "W8 AW9W8 A4WI ASy4Ty A6P2 A50A AOsfQ A6DL AlPnp A6Pc4Og BHo4Mz5uF A4nE5z5 A6Cq6hy A5jy6hy A6DH",
  " A5BzAM Bj1RX ARXADC6AeAq AHFfRAD5uJO0 GIRO0 AC0fRADIRO0 G5uJO0 A6Gw AdgIQ A56Q AaGfS EADBfAeJ",
  "cAr A6pA51+ AaGfS6B6 AHiaG6FU A4OgADYt AfI CAD5Go A6pBfI BfB BKO BpC A5GP6HW A6Gt6aY BHB4U1 Bj",
  "2BfMN AMlBfAaBxC0B8MN OADAyA2Ka CC6AaC-C0B8MN ALDC6AaC-C0B8MN ACK4WtAM BP4WtAM AUoADa5BM C CAD",
  "A2MLIb EBGMLn8 A4UU Aco6GP ALF5ycW6 AKO5ycW6 AfTAD5kBWV AHFfTADRP ARP AfT AC0fT AT7 CADa5BM A4",
  "WH AvpAM A6KOW+ AO5ADBxAeAq AIrADBxAeAq AFLADJsAuADArAoAeAq A6YpADBfAeAq AGzADC-AeAq AHiA2QLRS",
  "AM AvEEG AaHAMAsAHAFn9 JCn9 G5-D Gnc GAHn9 APi Aco6hY A6sH Ac0 AzCAaki A5Pu A6GA A51N A6fA A43",
  "oO1 AB5H3FyADBRBA ASoAMAs4VD AZi5DF AA8AvW+ ABEAvW+ ADmLjB8 CSuB8 CW9G1 CSuG1 AACW9G1 CSuG1 AM",
  "PLjCw AOILjCw AMPACLjCw AOIACLjCw ABvAoOLBEB8 B1AoOLBEB8 AAyGVn+ AGVn+ADZ6A+ E AQSArYmADBGCR D",
  "oYmADBGCR AAMAs5zA4Zb ABEAHGV BQAHGV A4ZDGV AN2AM A1oBPjU A5mS B2o A6c0 A50DADCJ4Wi AnjBP5Rp A",
  "JjBtA2PD F7PD EBGPD FTPD FaPD F5PD ECEPD EB3PD ECJPD EEGPD EOtPD ENGPD E6CI Fj6 FgB E5HO FGc E",
  "6Xx FUe E5Cz F73 E6fG E5DA E6jw AAoUo EADA2MLIb GBGMLn8 A4W9 DADMLn8 A6MKT7 AW8 A4YK A5y1Jj AA",
  "8jTAav4 AHi6F9 AwU AKxFg4XLRU5su A6YEDe6ZV Avy6bh A6ZD D6rL A5li AKx453 AArIuOsfQ AOsfQADQN AA",
  "oIuOsfQ ABE6hhOs AA86hhOs AOsFLGzBP52B A4oXaGfS AO5BPRX A6aHRX ARXADY0 An-RX AWVCW6aHRX A5tU6D",
  "4 AA8n7 ABvArc+ E4UBWV EwTWV E6DP E43X AArwaIu ACjfEIuAB AIRIuADI26ZH AD7IRIuADI26ZH CfJBlAB F",
  "4AB CwZIu CIuADBRQnKr AIRIuADjyJ2BRAaCiI2 ABEB4EdArIuBu ALdBEArEdBu FoEdBu CA8ArEdBu FoEdBu AA",
  "8ArEdTSBu DoEdTSBu ALdBEBlEdBu F4EdBu CA8BlEdBu F4EdBu AA8BlEdTSBu D4EdTSBu CI- A47Kn5 AYuAaUm",
  " ABG56O42q A6HN BGZ4YE AA8P1IifPaE ABEP1IifPaE ANUIifPaE AwY4Ye A6rtYu AA2W+Um B7W+Um ABGW+Um ",
  "A6hn AAn6E3n5 AP1aE AYj A6HNoA AlPoA A6CZGpoA AaIADQ0 GAaoB EoB AeHADoB E6gj EH4D9 AA8Un AUn A",
  "C0Un AD6Bu48X CYxBp AYx4X7 AM4Jk EQN EZs AJk CQN CZs AM4aI CQN C6DM AaI AQN A6DM Bq9 AUIJkZs C",
  "n6Zs A47K6rn A51p BzX Am0 AMlAoAaArYmMN Aa5D9 AlI5G96X1AM Ayl5G96X1AM A42p AAnRP A6Mh56Q AQNAD",
  "AyQ0 Ak9aD AT3WD BO A6Y9JVFgfL ABGPgAq F+ Fr Fo AArUERs BoUERs B7UEoC ABGUEoC AArn3Rs Bon3Rs B",
  "rn1Rs Bon1Rs AoDRs AY0oDRs E AOJBpADOJ CAbD9 CBpADAbD9 CAcAbD9 CBpADAcAbD9 AB-NoAu AOJBpADAcNo",
  " A6r+Y6 A52v5Hd A6hH6hk BaRBP5s5 AfLBP5ks A522 AaJBt EADKXJ+ ABtADoEBPnX AKXBtADC0Gn KAaKXJ+ M",
  "oFfN M6gcJ+ G5Ml HQu A6rrBt AKXBtADKXJ+ ABt6Pj461fG A6LIBt AKXBtAD5NQJ+ G6bh A6YPBt AHTBt A5EM",
  "Bt A6lqBt ABtADoFfN A6EsBt A42vBt CuBt AfUBt ABt6gCAWW5 AfUBtADKXJ+ GHFJ+ ABtADoGMQ IAa6rrQO L",
  "gcJ+ A48JBt A6sABt A4OOBt AoHBt BIBt A6E2Bt ABtAD5t7BP6iK A48JQK6LIBt Ac3BtADC0Gn A4OQBt A5F0B",
  "t A6rKBt BYDBt BgtBt A5LZBt BuEoIBt ABtADC0Gn A5RKBt ABtADC0GnAaoFfN C6P0Fg5Fz A4P2Bt A5GzBt A",
  "n2Bt A48dBt ABtY4Gn CAD5zzni AaJOMBtADKXJ+ AOMBtADoEBPnX AKXOMBtADC0Gn I5NQJ+ AOMBtAD6sKYs AfU",
  "OMBtADHFJ+ AoHOMBt BIOMBt A6rKOMBt AfVc3Bt CKXBt A6l-Bt ABtAD6MjJ+ EHi5LB5Jg EfE5Jg AK04WY46u ",
  "A6QFaC A5NOaC A6Y8aC A5MzK06KaA2Iu AK06Ka4WTRdFg4ZB Cc3 CADoHBt E5G4Rd ADAGHEdK3 B0GHEdK3 BAFh",
  "EdK3 B0FhEdK3 ACjDAGHEdK3 D0GHEdK3 DAFhEdK3 D0FhEdK3 ADAGHEdRiK3 B0GHEdRiK3 BAFhEdRiK3 B0FhEdR",
  "iK3 ABQDAGHEdRiK3 D0GHEdRiK3 DAFhEdRiK3 D0FhEdRiK3 ADAGHEdTT B0GHEdTT BAFhEdTT B0FhEdTT ABQDAG",
  "HEdTT D0GHEdTT DAFhEdTT D0FhEdTT A5PyfWAvFY JFgA8Av A6YlfWAvFY JFgA8Av ABxaK AC-aK ABfaK AC6aK",
  " AAbAjN0FY ABQAbAjN0FY AAjC0N0FY ABQAjC0N0FY CRtFY AUrRtFY AA0BQA4CjFqI4AuFY GFqI4AuFY ECKA4Fq",
  "I4AuFY ABQYhFY AA0YhFY ABQA0YhFY AItBQKN F6KN AfXZ- AK6fXZ- AaK A5NX Axw5tr AfYSm A5OIoJ FADNn",
  "Pn AoJ A50R AB-6KY A6aQ Bhs DSm AoK AaLoK A6iN AoKEo A51n A4N+ APi5DP AfMSm AaLfMSm A6eo AaL6e",
  "o A4QT AaL4QT A6K46n+ A463jf BPg5t- A6ho A52e ASjfY AivfY ASj4X8 A4NC6ht AmD A6Mv BY+ ACvY5B- ",
  "ABYY5B- AnsAB AfM4Yd6LhB- AKoO0FLnu Axu AHijeAB A6YQAM AHi6YQAM AlN5tcFg5keTfAM ALLFT5tcAM A6G",
  "yNpAM A59YNpAM A4Va AHi4Vb A4Vc ASj4Vc A1j AHi6Ed A4naIj A50EAM A6r5AM BLY AW7AM A6hG ANp4on A",
  "6Wi AoL A1f A6ELVx A434 BT34oW AAr5uN ACwADM3Vz A6HTAB AAyi4i5 A4WcAM A5KqAM A43PAa5r4 An24Ms ",
  "A6WT4T4 A4VHT7 BU9 ATfBP6sB A6B0AB BWT6iM Ba- BDN A5OK6fF BRL BC+;1F6DD A6GK6YF Ac2 ACi4XG Ac0",
  "Aa6sH Ajg AeGWJ A52u AfYx3 A52rx6 AMPnoSq CSq CACSq AACSq A59dSq ASq47A DPb;1F6F0 A6Pc AaLPi5D",
  "P A47u5tr A6EHmD BPw A52r6Pw A4YQ A6YB An-6Pg A6X3 A4QR6Lv A6Ffjf BMiwV;1F700 ACpAMAs6JF GWU G",
  "Pi GMm GNp G4O7 GfZ6K7 K8 JpY KZ G6pO IP IQ GoM G6FPoM GA8oM Gc4aM I6bS KT G4oN GQY G57- G6pa ",
  "Ib GoNQY I6PK GdY G6XZ GfaUp I6Cd GoOBPfa GfbBPfa GW-Up G5kUUp GaMBPW- GoOBPW- K43D GW-4Ol GQY",
  "BPW-4Ol GaMBPQYBPW- G6oC HgmUp G5sPUp GXAUp GaMBPXA GQYBPXA GaMBPQYBPXA G6pOBPXA GfbBPXA K4Om ",
  "I G6K+ I- HLA G4Nx Iy G5y6 G6PD G4Pd G6Kx Iy G4QP HVuUp G6eb Ic HJB5tJ G4WM IN IO HN6 GeG GdT ",
  "G6go GmZ GzR G6G5 G4YF G6jq G4YW52n G6PtBP5lf Gv5 GZi G6aNZi G5ts G6Ye HmF GRcuU G4Ps Gdp4Ps G",
  "oP G6G6oP G4N7 GoQ6booQ L6ao G6bU HHD G48R IP IQ G6H1 I9 G43g Ih Ii Ij Ik GwH GoLBP5zH K6nw G6",
  "La GJ6 Gdi G46F Ggc GBypN IvJ;1F780 AA8LFfcAoCw CMPfcAoCw CKOfcAoCw COIfcAoCw CfVACB8 AC8AcBEB",
  "8 AAcBEB8 ABQBEB8 AItBQBEB8 AXBBQBEB8 ABEB8RTA8ACB8 ANzoR AA8Y9Av CfVACAv AB-BEAv AC8BEAv AAcB",
  "EAv ABQBEAv AItBQBEAv AXBBQBEAv ABEAvRTA8ItACAv IC8Av AAvoR B8Y9G1 CItACG1 CC8ACG1 ABEG1RTA8It",
  "ACG1 IC8G1 AG1oR AA8Y9OH CItACOH CC8ACOH ABEOHRTA8ACOH AayAkGV AB-AkGV AC8AkGV AAcAkGV AItAcAk",
  "GV CBQAkGV AXBBQAkGV AayPh AB-Ph AC8Ph AAcPh ABQPh AItBQPh AXBBQPh AB-BaL3G5 AC8BaL3G5 AAcBaL3",
  "G5 ABQBaL3G5 AItBQBaL3G5 AXBBQBaL3G5 AB-B5L3G5 AC8B5L3G5 AAcB5L3G5 ABQB5L3G5 AItBQB5L3G5 AXBBQ",
  "B5L3G5 AB-B3L3G5 AC8B3L3G5 AAcB3L3G5 ABQB3L3G5 AItBQB3L3G5 AB-BGH3A8Fy AC8BGH3A8Fy ABGH3A8Fy A",
  "C8BGH3RYFy AB-BTH3A8Fy AC8BTH3A8Fy ABTH3A8Fy AC8BTH3RYFy AK6B-BTH3RYFy AB-BaH3A8Fy BQBaH3A8Fy ",
  "AC8B5H3A8Fy ABQB5H3A8Fy B5H3RYFy AC8B3H3A8Fy ABQB3H3A8Fy AItBQB3H3A8Fy ABQB3H3RYFy B-NGH3A8Fy ",
  "BQNGH3A8Fy GRYFy AAyCw ADSAyCw AAyAv ADSAyAv;1F7E0 ADmW9B8 CZMB8 CTQB8 Cn0B8 CoSB8 CLjAv CSuAv",
  " CW9Av CZMAv CTQAv Cn0Av CoSAv;1F7F0 ABQH-AB;1F800 ABxAeADACCwEj AC-AeADACCwEj ABfAeADACCwEj A",
  "C6AeADACCwEj ABxAeADC8CwEj AC-AeADC8CwEj ABfAeADC8CwEj AC6AeADC8CwEj ABxAeADDmCwEj AC-AeADDmCw",
  "Ej ABfAeADDmCwEj AC6AeADDmCwEj;1F810 ABxAeADACKYEj AC-AeADACKYEj ABfAeADACKYEj AC6AeADACKYEj A",
  "BxAeADKYEj AC-AeADKYEj ABfAeADKYEj AC6AeADKYEj ABQBxAeADKYEj CC-AeADKYEj CBfAeADKYEj CC6AeADKY",
  "Ej CBxAeADDmKYEj CC-AeADDmKYEj CBfAeADDmKYEj CC6AeADDmKYEj BxEfAeADVlKA AC-EfAeADVlKA ABfEfAeA",
  "DVlKA AC6EfAeADVlKA ABxEfAeADC8KA AC-EfAeADC8KA ABfEfAeADC8KA AC6EfAeADC8KA ABxEfAeADAcKA AC-E",
  "fAeADAcKA ABfEfAeADAcKA AC6EfAeADAcKA ABxEfAeADBQKA AC-EfAeADBQKA ABfEfAeADBQKA AC6EfAeADBQKA ",
  "ABxEfAeADItBQKA AC-EfAeADItBQKA ABfEfAeADItBQKA AC6EfAeADItBQKA ABxfdAe AC-fdAe ABffdAe AC6fdA",
  "e ABxBoAe AC-BoAe ABfBoAe AC6BoAe ABxTUAe AC-TUAe ABfTUAe AC6TUAe ABxBQTUAe AC-BQTUAe ABfBQTUA",
  "e AC6BQTUAe ABxBQAe AC-BQAe ABfBQAe AC6BQAe;1F850 ABxA0Ae AC-A0Ae ABfA0Ae AC6A0Ae ADAGHA0Ae CF",
  "hA0Ae B0FhA0Ae CGHA0Ae AArAoA0Ae ABlB4A0Ae;1F860 AHZBxB-C9Ae CC-B-C9Ae CBfB-C9Ae CC6B-C9Ae CDA",
  "GHB-C9Ae EFhB-C9Ae D0FhB-C9Ae EGHB-C9Ae CBxC9Ae CC-C9Ae CBfC9Ae CC6C9Ae CDAGHC9Ae EFhC9Ae D0Fh",
  "C9Ae EGHC9Ae CBxC8C9Ae CC-C8C9Ae CBfC8C9Ae CC6C8C9Ae CDAGHC8C9Ae EFhC8C9Ae D0FhC8C9Ae EGHC8C9A",
  "e CBxBQC9Ae CC-BQC9Ae CBfBQC9Ae CC6BQC9Ae CDAGHBQC9Ae EFhBQC9Ae D0FhBQC9Ae EGHBQC9Ae CBxItBQC9",
  "Ae CC-ItBQC9Ae CBfItBQC9Ae CC6ItBQC9Ae CDAGHItBQC9Ae EFhItBQC9Ae D0FhItBQC9Ae EGHItBQC9Ae;1F89",
  "0 ABxCwEj AC-CwEj ABfCwEj AC6CwEj ABxBEAeThCwEj AC-BEAeThCwEj ABfBEAeThCwEj AC6BEAeThCwEj ABxA",
  "eADQSFr AC-AeADQSFr ABfAeADQSFr AC6AeADQSFr ABQAeKAPbA2 J7RK J2By KOA Bx4WVBEAe BfH5oTBEAe BxG",
  "zoTBEAe BfGzoTBEAe BxjqBEAe BfjpBEAe BxjpBEAe BfjqBEAe BxjrOLBEAe BfjrOLBEAe BxjsOLBEAe BfjsOL",
  "BEAe BEAeKAPbA2 J7RK;1F8B0 AAeEdC-RZDAGH EBfRZY7D0GH;1F900 AAyGVoUADBTCR IA7CR G BrByB8ADBTCR ",
  "JGCR IA7CR IBA G AfeaFBX EQSBX EBXADBA EQSBXADBA A6F1I2 ABEI- AoSI- A6F2Iu BxRBt A52YBt ABtAD6",
  "fo A56KBt A6fwBt ABtAD5NK A6MeBt A5Q-Bt AABBPHI5Qu Ak+IUIu AIRO5BPIu Aagjk Bfjk A5Mv AIuADBuAa",
  "BRI2OK AA-nv6u6IuAB ABtAD43TUD A4oqBt A548Bt A6MjFLHIL05sE A5BDBt BufBt ABtWC A6YUBt ABtADA25E",
  "SIR AaJBtADFyJ+ GA2DmAaA2ACQO ABtADQnoVHFTO A6UXBtADncoVGn AKXBtADKXJ+AaIuoVGn ABtADC0Gn6po A6",
  "WOBtAD5EKJV AoWSw A4Wm A6DYBldm BUM BHL AKxFg6jt Axinl A6Ws AK048r4Yf A5ln BF7 B2C6Eu A6sI ANp",
  "6Gk A5Mt A48Zni A6rlYi AWJAD5BH A4oj5Kw A6jcW6 Akv ASAWF A6L- ARJTfZ+ BbTfZ+ AOATfZ+ A4Wa5Kz A",
  "5zE4Pi6l1 A43zk2 A5q-TRAaO1 A6Yh An-Gp A43d BQY B3q BTw A6Gz A4Yc BT54Wk ATQ6PG A6VrmRBPfG Ba+",
  "5Gp A1t AW6BP51i A6Eb A5od A6Di A5BO BHJ42- A6eNBp A4ns AnjADkv AYqAD6ap A4qV BWv Ayu A6HJ AlX",
  "BPdV A6PT A4YOfG A5sRTQ Byv AJKnk A4T2 AKXBtADKXJ+AaBGMW A6uFBt AKXBtAD6e2 ABtADnnIQAannUD E6l",
  "yJ+AaPNGn A6CsBt A5HTBt B74 A48LBt ABtWKO5oE CAD6GLJ+ AuO A5q44qS BK7 BOJ4WJ AT9T6 A43V A5tWBt",
  " A6Py Bjj Bl0Bt A1n A5BJ AlM A6Vx BCt Ay5Bt A4XQ Ak3 A5LH Btf A6Lk BWo BZX A5KoBt A6wiBt A5NS ",
  "A6Pi BdM A43b A5mo Btg A6Ea A5OM A6EA BKM A5tn B2p B1L Ax8 A6b4 A5yq A48q A6YL BCo Cb BX8 A5Gn",
  " A6Cx Aie A4Vv Akd A5LiWE A6HQ4YM ARrffLjT2 EIAT2 E4T- EBET2 AdZ ALH Acv Adc A6bq Cs Ajj6o2 AT",
  "1AD5NP4NX A52tjZ By2jZ BzxK1 DLH A4nF6rN B3u AQY6Vp Av3Bp A5I8 A6CL A5Fo A6qw A4XP A5zQ5BB ASn",
  "f- ARs6ez A6iL BaKK0 A5o1K0 A46kK0 ABtAD52b A4M6 Akx Anz4M6 A4U6K0 AK0AD5NN CFg6aW6Mn C4oh CFg",
  "eJVu A5yZ BFm A6nu A50H BDB BJZ A6xY A4Wg AW9I- A4Vjck A6Ps A5K0 A4qS A6Yg ALj5KiRX A5GT BlB6I",
  "ASd A6fO6jX BFBKi A48nA45NY Bql BMl APi5EN A6hU AoP A5yb BuN CDfH A6ZLBPke AO1BP6t6 Ajj6Fy A6e",
  "64U5 A4Wx BUR A6MgBPc6 AB7BP6Ye A6ZK BKz A55B4OE AHTDbL2 EMp EOx Fy EJY EOz ABEDbJYFboXGT AA8D",
  "bJYFboXGT AHTDbJYFboXGT ABEDbL2FbH0GT EMpFbH0GT EOxFbH0GT FyFbH0GT EJYFbH0GT EOzFbH0GT AA8DbL2",
  "FbH0GT EMpFbH0GT EOxFbH0GT FyFbH0GT EJYFbH0GT EOzFbH0GT AHTDbL2FbH0GT EMpFbH0GT EOxFbH0GT FyFb",
  "H0GT EJYFbH0GT EOzFbH0GT ABEDbJYFbA2CMoYGT AA8DbJYFbA2CMoYGT AHTDbJYFbA2CMoYGT ABEDbCjL2 GMp G",
  "Ox Hy GJY GOz AA8DbCjL2 GMp GOx Hy GJY GOz AHTDbCjL2 GMp GOx Hy GJY GOz ABEDbJYFbA7CMdlGT AA8D",
  "bJYFbA7CMdlGT AHTDbJYFbA7CMdlGT ABEDbL2FbA7CMIVGT EMpFbA7CMIVGT EOxFbA7CMIVGT FyFbA7CMIVGT EJY",
  "FbA7CMIVGT EOzFbA7CMIVGT AA8DbL2FbA7CMIVGT EMpFbA7CMIVGT EOxFbA7CMIVGT FyFbA7CMIVGT EJYFbA7CMI",
  "VGT EOzFbA7CMIVGT AHTDbL2FbA7CMIVGT EMpFbA7CMIVGT EOxFbA7CMIVGT FyFbA7CMIVGT EJYFbA7CMIVGT EOz",
  "FbA7CMIVGT ABEDbJYFbBGCMPeGT AA8DbJYFbBGCMPeGT AHTDbJYFbBGCMPeGT ABEDbXC AA8DbXC AHTDbXC ABEDb",
  "XCFbH0GT AA8DbXCFbH0GT AHTDbXCFbH0GT ABEDb5o3 G4 G2 AA8Db5o3 G4 G2;1FA60 ANwLj5JX Fyt Enx ERc ",
  "EZe E4YP E6Yk CA85JX Fyt Enx ERc EZe E4YP E6Yk;1FA70 A4UA6WP A6CH6b8 A4Ws Acw Aqb6PS;1FA78 A5B",
  "EBPx7 A4M14UE A6aZ BsX A43m;1FA80 A6u1 A5oa A6D6 A1k A5ya6q1 A6F0 A56N48v;1FA90 A6MJ6GH Avw A6",
  "Kp Ak1 A48c5r4 BUG Anoc8 A4Mt ACsWJ A4qZ A1ll5 A6P1 A5rA ABX A51x A6rn BGT BUh56E A5o6 A4W2 AU",
  "m6hw A6hW AwW A6GE AoN A51xO1 AvxD6 ACK4UU A5Mp;1FAB0 Akq A6r- A4VB BqT A6G06GI Ak8 AcE AeJ A4",
  "3G AM456M A56MAD5Cw;1FAC0 A4OHI- A5uQ A6Ev5Q- AoWKx D0 AK0AD43f;1FAD0 A4WE AT76Ex A1d A5Gp A6e",
  "Q A5G7 A6e1 BG31g A4U4 Ax4;1FAE0 A5z+Bt A6PLBt ABtADC0J+AaIuCWGn E6EfQO EC+Gn AHPE-Bt Ayhds Ao",
  "C;1FAF0 AIuADBuQnAaCUOK ABfIu BxIu AWCB4Iu DlIu ABuEdJcHI6pJ AI-Rd;1FB00 AB26Uk DVC DUl DVR DU",
  "0 DVD DUm DVZ DU7 DVL DUt DVS DU1 DVE DUn DVd DU- DVO DUx DVW EI DUq DVa DU8 DVM DUu DVT DU2 D",
  "VF DUo DVf EB EQ DUz DVY DU6 DVK DUs DVc DU+ Ew DVV DU4 DVH DUp DVe EA EP DUy DVX DU5 DVJ DUr ",
  "DVb DU9 DVN DUv DVU DU3 DVG BvArB2C+BvBRArBHBvFU SAo J1BRArBHBvFU SAo KArBHBvFU DoB2C+B1BRArBH",
  "B1FU SAo JvBRArBHB1FU SAo KArBHB1FU KBRArBHB1BRAo KFUBHBvBRAo KArBHBvBRAo KFUBHB1BRAo KArBHB1B",
  "RAo KFUBHB1Ao DrB2C+B1FUBHB1BRAo KArBHB1BRAo KFUBHBvBRAo KArBHBvBRAo KFUBHBvAo KBRArBHBvBRAo B",
  "1AoB2C+BvBRArBHBvFU SAo J1BRArBHBvFU SAo KArBHBvFU DrB2C+B1BRArBHB1FU SAo JvBRArBHB1FU SAo KAr",
  "BHB1FU KBRArBHB1BRAo KFUBHBvBRAo KArBHBvBRAo KFUBHB1BRAo KArBHB1BRAo KFUBHB1Ao DoB2C+B1FUBHB1B",
  "RAo KArBHB1BRAo KFUBHBvBRAo KArBHBvBRAo KFUBHBvAo KBRArBHBvBRAo DaAoAaBvKoBGMxB2 AArAaBvAaAoKo",
  "BGMxB2 AB1AaArAaBvKoBGMxB2 AArAaB1AaAoKoBGMxB2 CKoA2HtB2 AB1KoA2HtB2 AAoKoA2HtB2 ABvKoA2HtB2 B",
  "YA2Hz4V5 I6 I7 I8 I9 I+ ACvA2Hz4V5 I6 I7 I8 I9 I+ AArAaBvA2HzB2 F1A2HzB2 BoAaB1A2HzB2 FvA2HzB2",
  " AB1AaBvA2HzB2 ACvA2Hz4V4 AB1A2HtB2 CBGNFB2 DaNFB2 DGMxB2 CCENFB2 AAoA2HtB2 CBGNFB2 DaNFB2 DGM",
  "xB2 CCENFB2 BrByC8NJ BoByC8NJ AB1ByC8NJ BvByC8NJ APfC8NJ AB1ByB2AaBvByPfC8NJ EPfC8NJAaBvByB2;1",
  "FB94 AArByPfC8NJAaAoByB2 AfXZ-L1 APffXZ-L1 ABQCvL1 B1ArBHBvAoL1 DoBHBvArL1 DaBvKoByB2 AArAaAoK",
  "oByB2 AB1ArKoC8NJ DoKoC8NJ BvAoKoC8NJ DrKoC8NJ BpCCB-C+B1FUBHBRAr Ro JRArBHBvFU LoBHBvFU J1FUB",
  "HBRArBHBvFU RoBHBvFU JRArBHBvFUBHBRAo P1FUBHBRAo J1FUBHBRArAaBRAoBHBvFU RoAaBRArBHBvFU SBHBvFU",
  "BHBRAr RrBHBvFUBHBRAo JRArBHB1FUBHBRAoBHBvFU LoBHB1FUBHBRArBHBvFU IG1 HvADBYBM A4PcYy APfNoAu ",
  "AArBynqKx BoBynqKx APfC6AeADLEBx ABxAeAaB1AaBvA2HzB2 BfAeAaB1AaBvA2HzB2 AC6AeAaAoA2HzB2 B-AeAa",
  "AoA2HzB2 AArByUn BoByUn A6piAkGV AAoC0BoBA ADSC+GV EBRAoBHBvFU EG1 ABEBQPhADM3Vz AArOABEAoEdBu",
  " ABROABEAoEdBu AAoOABEAoEdBu ADSBoJCAu ATRSX EAD4PTIR E5sSAr Io EAD5A- ABEMPwe;1FBF0 AQsAQDj E",
  "A2 F7 EBG FT Fa F5 ECE EB3 ECJ;2F800 AALAP5Sh Gi Gj Gk Gl Gm Gn Go Gp Gq Gr Gs Gt Gu Gv Gw Gx ",
  "Gy Gz G0 G1 G2 G3 G4 G5 G6 G7 G8 G9 G+ G- FTA GB GC GD GE GF GG GH GI GJ GK GL GM GN GO GP GQ ",
  "GR GS GT GU GV GW GX GY GZ Ga Gb Gc Gd Ge Gf Gg Gh Gi Gj Gk Gl Gm Gn Go Gp Gq Gr Gs Gt Gu Gv G",
  "w Gx Gy Gz G0 G1 G2 G3 G4 G5 G6 G7 G8 G9 G+ G- FUA GB GC GD GE GF GG GH GI GJ GK GL GM GN GO G",
  "P GQ GR GS GT GU GV GW GX GY GZ Ga Gb Gc Gd Ge Gf Gg Gh Gi Gj Gk Gl Gm Gn Go Gp Gq Gr Gs Gt Gu",
  " Gv Gw Gx Gy Gz G0 G1 G2 G3 G4 G5 G6 G7 G8 G9 G+ G- FVA GB GC GD GE GF GG GH GI GJ GK GL GM GN",
  " GO GP GQ GR GS GT GU GV GW GX GY GZ Ga Gb Gc Gd Ge Gf Gg Gh Gi Gj Gk Gl Gm Gn Go Gp Gq Gr Gs ",
  "Gt Gu Gv Gw Gx Gy Gz G0 G1 G2 G3 G4 G5 G6 G7 G8 G9 G+ G- FWA GB GC GD GE GF GG GH GI GJ GK GL ",
  "GM GN GO GP GQ GR GS GT GU GV GW GX GY GZ Ga Gb Gc Gd Ge Gf Gg Gh Gi Gj Gk Gl Gm Gn Go Gp Gq G",
  "r Gs Gt Gu Gv Gw Gx Gy Gz G0 G1 G2 G3 G4 G5 G6 G7 G8 G9 G+ G- FXA GB GC GD GE GF GG GH GI GJ G",
  "K GL GM GN GO GP GQ GR GS GT GU GV GW GX GY GZ Ga Gb Gc Gd Ge Gf Gg Gh Gi Gj Gk Gl Gm Gn Go Gp",
  " Gq Gr Gs Gt Gu Gv Gw Gx Gy Gz G0 G1 G2 G3 G4 G5 G6 G7 G8 G9 G+ G- FYA GB GC GD GE GF GG GH GI",
  " GJ GK GL GM GN GO GP GQ GR GS GT GU GV GW GX GY GZ Ga Gb Gc Gd Ge Gf Gg Gh Gi Gj Gk Gl Gm Gn ",
  "Go Gp Gq Gr Gs Gt Gu Gv Gw Gx Gy Gz G0 G1 G2 G3 G4 G5 G6 G7 G8 G9 G+ G- FZA GB GC GD GE GF GG ",
  "GH GI GJ GK GL GM GN GO GP GQ GR GS GT GU GV GW GX GY GZ Ga Gb Gc Gd Ge Gf Gg Gh Gi Gj Gk Gl G",
  "m Gn Go Gp Gq Gr Gs Gt Gu Gv Gw Gx Gy Gz G0 G1 G2 G3 G4 G5 G6 G7 G8 G9 G+ G- FaA GB GC GD GE G",
  "F GG GH GI GJ GK GL GM GN GO GP GQ GR GS GT GU GV GW GX GY GZ Ga Gb Gc Gd Ge Gf Gg Gh Gi Gj Gk",
  " Gl Gm Gn Go Gp Gq Gr Gs Gt Gu Gv Gw Gx Gy Gz G0 G1 G2 G3 G4 G5 G6 G7 G8 G9 G+;E0001 A5r6DB;E0",
  "020 ADBKl CJsAu CI4Au CAgAB CTVAB CXDAB CRt CQt CArG4 DoG4 CG5 CBkAB CFq CaN CGUEo CKN CAQDj E",
  "A2 F7 EBG FT Fa F5 ECE EB3 ECJ CId COT CFuAB CH-AB CFvAB CJCAu CXEJc CAHAFAAAW IBD ID2 JU IA9 ",
  "IEz IDE JV IA- IEW IDJ IBz ICz Jc IA6 ID8 IFw IBm Jn IDG IAz IDM IEN ID9 Jk Jd DrAvCF CK6KN CA",
  "oAvCF CEOFH CCKE- CFAFH CAHACAAAW IBD ID2 JU IA9 IEz IDE JV IA- IEW IDJ IBz ICz Jc IA6 ID8 IFw",
  " IBm Jn IDG IAz IDM IEN ID9 Jk Jd DrIACF CBYE- CAoIACF CC5 AvrDB;E0100 ABI6RZ Ek Ev E7 DSG ER ",
  "Ec En Ey E6 E7 E8 E9 E- DTA EB EC ED EE EF EG EH EI EK EL EM EN EO EP EQ ER ES ET EV EW EX EY ",
  "EZ Ea Eb Ec Ed Ee Eg Eh Ei Ej Ek El Em En Eo Ep Er Es Et Eu Ev Ew Ex Ey Ez E0 E2 E3 E4 E5 E6 E",
  "7 E8 E9 E+ E- DUB EC ED EE EF EG EH EI EJ EK DQN EO EP EQ ER ES ET EU EV EW EY EZ Ea Eb Ec Ed ",
  "Ee Ef Eg Eh Ej Ek El Em En Eo Ep Eq Er Es Eu Ev Ew Ex Ey Ez E0 E1 E2 E3 E5 E6 E7 E8 E9 E+ E- D",
  "RA EB EC EE EF EG EH EI EJ EK EL EM EN EP EQ ER ES ET EU EV EW EX EY Ea Eb Ec Ed Ee Ef Eg Eh E",
  "i Ej El Em En Eo Ep Eq Er Es Et Eu Ew Ex Ey Ez E0 E1 E2 E3 E4 E5 E8 E9 E+ E- DSA EB EC ED EE E",
  "F EH EI EJ EK EL EM EN EO EP EQ ES ET EU EV EW EX EY EZ Ea Eb Ed Ee Ef Eg Eh Ei Ej Ek El Em Eo",
  " Ep Eq Er Es Et Eu Ev Ew Ex Ez E0 E1 E2 E3 E4 E5;"]

end VoiceDebugger.Text
