/-!
The words that character names are made of: the most frequent first, the others by letters.

A word begins with a digit for how many letters it has in common with the word before it, and goes
on with the others.
-/

namespace VoiceDebugger.Text

/-- The words of character names, line by line with a space between them. -/
def nameWords : List String := [
  "ALETTER ASIGN BMALL AWITH ASYLLABLE ACAPITAL AHIEROGLYPH ALATIN AARABIC AYI ACUNEIFORM BJK",
  "ASYMBOL AMATHEMATICAL AEGYPTIAN ACOMPATIBILITY ADIGIT AFORM AVOWEL ATANGUT ACANADIAN",
  "ASYLLABICS AA ASIGNWRITING ATIMES ABAMUM AAND ASCRIPT ABOLD AANATOLIAN BRROW AHANGUL ANUMBER",
  "ALINEAR ACOMBINING ALIGATURE AGREEK AETHIOPIC AMUSICAL AOLD ARIGHT AKHITAN AABOVE ALEFT AFOR",
  "ACYRILLIC AMARK ASQUARE AITALIC ANUSHU ACIRCLED AU ASANS-SERIF ARADICAL AONE AFINAL ADOUBLE",
  "ATAI AO ATWO ABLACK AE ABELOW AI ADOT AVAI AMODIFIER AB AWHITE AHENTAIGANA ATHREE BO",
  "AVARIATION APATTERN ABRAILLE BYZANTINE ASTROKE AKATAKANA AISOLATED AOF AHEAVY AMIDDLE BYANMAR",
  "AFOUR AKANGXI AMENDE AKIKAKUI AHOOK AVERTICAL ATIBETAN AFIVE AINITIAL AMEEM AHMONG AKA",
  "ARIGHTWARDS AYEH ACOPTIC AZNAMENNY ACARRIER APLUS AUP AR AS BQUARED ABOX AGEORGIAN ACHEROKEE",
  "AMONGOLIAN AFACE AINDEX ALOWER ADEVANAGARI ALEFTWARDS AHALF AL APHASE-E AUPPER ABLOCK AEIGHT",
  "ADOWN ASIX AALEF ABAR ACIRCLE AMIAO AVOCALIC ALIGHT AKHMER ATILE ADRAWINGS BUPLOYAN ASEVEN",
  "ABRACKET AHA ATHAM APARENTHESIZED ANINE ALOW ATONE AHUNDRED AGONDI AJONGSEONG AHIGH BEBREW",
  "ADOTS AGLAGOLITIC ATAMIL BHUMB AMALAYALAM AOVER ASIYAQ APAHAWH ACHOSEONG APA ABALINESE AN",
  "AHAND-FIST ARA AHALFWIDTH AMEROITIC AIDEOGRAPHIC ARING ATURNED AIDEOGRAM APHASE-D AEQUAL AHAH",
  "ANEUME AALCHEMICAL AMA ABRAHMI ALONG ATHOUSAND ALA AHORIZONTAL ATRIANGLE ANA BUMERIC AM AOPEN",
  "AYA ASINHALA ATA AHUNGARIAN ATILDE ADOWNWARDS ASA AMEDIUM ABARB ADIAGONAL AUPWARDS ANORTH ATAG",
  "ADA AFULLWIDTH AG AJEEM AT APUNCTUATION AGA AK ATELUGU ADOMINO AV ACYPRO-MINOAN AFRAKTUR",
  "DCTION ASIDDHAM AMEDIAL ANEGATIVE APHASE-C AD AH ADOUBLE-STRUCK ANEWA ABHAIKSUKI AARMENIAN",
  "ABENGALI ACHESS ASHARADA AZ AOR ACHARACTER AJUNGSEONG AHIRAGANA AACUTE AZERO AY ABA ALARGE",
  "AGUJARATI AORIYA AIDEOGRAPH AJAVANESE AMEDEFAIDRIN ASYRIAC AKANNADA AWEST-CREE ACURSIVE AAA",
  "ARUNIC ATANGSA ACONSONANT ASOUTH AADLAM AC ATHAI ANEW APHASE-A ACARD AREVERSED AP AX ASOGDIAN",
  "AGRANTHA ASUBJOINED ALUE AWARANG ACITI AMOVEMENT-WALLPLANE ADASIA ATEN ACHAM ASOYOMBO APLAYING",
  "ALAO ASAURASHTRA ATIRHUTA AW ACIRCUMFLEX AAI ASINGLE ATETRAGRAM AHAMZA AII AGURMUKHI ADESERET",
  "AJ APSILI ANOTATION AMEETEI BAYEK BODI ANUMERAL APOINTING AINDIC ATRIANGLE-HEADED AGA2",
  "AMOVEMENT-FLOORPLANE ADIAERESIS AARROWHEAD ANGA AAU ABOPOMOFO AMASARAM ASTOP BHA AJA ALAM AUU",
  "ALEPCHA AOMEGA ACA AWA AVIET ATURKIC AF AALPHA ASHORT BUNDANESE AOSAGE ADIVES AAKURU",
  "AZANABAZAR ALITTLE ACHAKMA ANYIAKENG APUACHUE ALINE AGRAVE AAPL AFUNCTIONAL AVITHKUQI AMAKSURA",
  "ATELEGRAPH AKHUDAWADI AACCENT AMACRON AKHAH ANOON AON ALIMBU AKHAROSHTHI BAITHI ATAKRI",
  "AMARCHEN AINVERTED ACHA ANOT ACENTRE ANYA AKHA ALI AORNAMENT AAHOM ANANDINAGARI AROTATED",
  "AHARPOON BEXAGRAM AARABIAN BNGLE AIN AEAST AGUNJALA ALAGAB ANKO ASAMARITAN AVARIA AOXIA",
  "AKHOJKI AMONOSPACE ACOMMA ATAIL BHA AOTTOMAN ALESS-THAN AGREATER-THAN AQ ATRIPLE ASTAR ADOGRA",
  "ANUN ATIFINAGH AWANCHO AHAU ABREVE AAEGEAN AINSCRIPTIONAL APAU ACIN AETA BN AASH ABATAK",
  "APHAGS-PA BAHLAVI AGUNU APHASE-B D AVA AWEST ACYPRIOT AAVESTAN AIOTA APHASE-F AHITTING ATEH",
  "APERSIAN AANUSVARA BCROPHONIC ACAUCASIAN AALBANIAN ADEGREES AFULL ACROSS API AROMAN AUNIFIED",
  "ASEEN ATTA AROHINGYA AKAYAH AMANICHAEAN AZA AKAF ATHAANA ADDA AHANIFI BEH ALE ATWENTY AOL",
  "AMOUTH ALISU ADISC ACARIAN AUPSILON AOO ADHA AVEDIC ACHIKI ASHAVIAN APERISPOMENI C ATOP AGHA",
  "ADIAMOND AOPERATOR AYEZIDI APARENTHESIS AASTERISK ASHAN CE AMTAVRULI APHAISTOS ACARON ABEH",
  "AAIN ANNA ASYLOTI ANAGRI AOE ACLOSED ASHEEN ABHA ATHE AMAHJONG AALI AGALI APERMIC AMRO",
  "ARETROFLEX ADOTTED AWAW AEE ATTHA ANEUTRAL AORKHON AHE AFA AVIRAMA ADASH AWIDE-HEADED ATENU",
  "AARCHAIC AMU AYU ADESCENDER ATAH ASUBSCRIPT BSA ANO ADDHA ARR AALTERNATE AOSMANYA AELBASAN",
  "ANABATAEAN ABASSA ACURVE AMAHAJANI ASECTION AQUARTER AYPOGEGRAMMENI AEPSILON AREH AFEH",
  "AVISARGA AEIGHTH ANINETY AMULTANI ATE APOINTED AAN ABOTTOM AHI ACORNER AREJANG AVAH",
  "AINSTRUMENTAL AEQUALS ACURLY ASTRAIGHT AQAF AJHA AFROM ALU2 ASIDE AGLOTTAL ATACK AARABIC-INDIC",
  "ALL ANI BE AFIFTY ASORA CMPENG AHORN ARAISED ACANDRABINDU ASAD AME ASEVENTY ADUG ASTRELA",
  "AINDICATOR AAE ASHIN AWAVE APRESENTATION ACOLON ANU ADAD CY AYO ASHELL ACROSSING ADINGBAT",
  "AVARIANT APALMYRENE AHIEROGLYPHIC AIGI AAFFIX ADIGRAPH AEND AYUS AVERY AHAND AUGARITIC",
  "AIMPERIAL AARAMAIC AYENISEI ARUMI AEZEN AHAND-HINGE AFINGERS ATOTO AQUOTATION AOMICRON ADANDA",
  "ATSA AMI ATHIRTY ABUGINESE AHEART ABENT APARTHIAN AQUESTION ACEDILLA APALATAL AMANDAIC AOGHAM",
  "AGAR ATODO ALOGICAL AMOON AVESSEL ALYCIAN APHOENICIAN BSALTER ASAG AKISIM5 AVOCAL ACONJOINED",
  "ASUPERSCRIPT ARHO AHEAD AUD APROSGEGRAMMENI AKNIGHT ASLANTED AEPACT ACHORASMIAN AAT ALOOP AHO",
  "APOINT ALLA AFORTY ADAG ACLOCK ANOTE AGOTHIC ALYDIAN ANINDA2 AURU ANEO AHAND-FLAT ALOOPED",
  "AEXCLAMATION ASIGMA ACHI AWE ASEPARATOR AGHAIN ASO ARO ALU ABU BETWEEN ASUBSET CPERSET",
  "ATORTOISE AHOUR ALAING AHATRAN AUYGHUR AEYES AREGIONAL ASHAFT APHI ASTRETCHED ATHETA ANUKTA",
  "AKO BHAMTI ATU AQUAD AINTEGRAL AUNDERBAR AMAKASAR ANOTEHEAD ASOLIDUS ARIGHT-POINTING ACHE",
  "ADAGESH ATHEH AWO AGI AKI AINDEPENDENT AQUADRANT ASMILING AEQUILATERAL AATTIC AOVERLAY AEL",
  "AWORD AUE ARU ASI ATAGALOG ASIBE ADISH AELYMAIC AALTERNATING ASPACE AGAMMA ACURL ATRIANGULAR",
  "ADE AZE AEXTENDED AZHA AMO BAI ASU AKU AMAN AWI ASE APERSON AARM AC-SIMPLIFIED ALEAF AGAN2",
  "BISH AREVERSE ADOTLESS AMINUS AAB BTTACHED ATHO AKE AHANUNOO AMANCHU AANTICLOCKWISE ATIP",
  "ALEFT-POINTING ADELTA ALEG AQA ANG ARRA ADO ALO ABUHID AINSULAR AUNION AARC ACURVED BLAN",
  "AMAYAN AHINGED AVULGAR AESH ATONOS ABETA AABBREVIATION AMEM ADAL AINSIDE ASIDEWAYS ATI ABI ADU",
  "BI ATWO-HEADED ARED AANNOTATION AKUR ABAD AAB2 BRCHAION AKAPPA ATAU AGHE AEM APO AKAREN ARE",
  "ABLACKFOOT ATAGBANWA AWALL AINTERSECTION AFLOOR BILL AKING ASPOKED AREST APAP AFTHORA",
  "ACOUNTING AROD AHAND-ANGLE AFORWARD AGURAGE ADIALYTIKA APSI AIE AVE ABETH ATAW AOBLIQUE AAL",
  "AGU ASIXTY BAYISI BOUND AN-ARY AARROWS ACEILING AUP-POINTING ATONGUE AALEPH ACIRCLES AMUSH",
  "AGUD AHAND-CIRCLE BEARTS AALMOST AZHE AIOTIFIED AKOMI AGIMEL ASAMEKH AZAIN AKAPH ASADHE",
  "AAVAGRAHA ASHAD AYE ARI ASLASH ACLOCKWISE AEARTH AOUT ASUN AQUEEN ATAILED ACIM ATAK4 ASHESHIG",
  "BPREAD AROTATION AMOVEMENT-DIAGONAL AQUARTERS AOGONEK AXI ABE AER ABIG AROUNDED AEMPTY AHETH",
  "ARISING ACANDRA ALENGTH AMGO ATSHA ASHU AXA AEIGHTY ANASKAPI AKOET AROC AEIGHTHS ATWELVE",
  "AEQUIVALENT ADENTISTRY ASHADE ATHROUGH AIM AYODH ALAMEDH CGAR AU2 AKASKAL AHAND-CUP",
  "AROTATION-WALLPLANE JFLOORPLANE ASOFT ALAMDA ATSE AZAYIN AFATHA AKASRA AZAH AFARSI ASHADDA AAS",
  "ASARA AGO ACAN ANYI BOR APWO AHU ATONAL ABIRGA BULLET ACHECK AWATER ANUNUZ AWRIST AHUMP",
  "ASPADES ADIAMONDS ACLUBS AXIANGQI AMULTIPLICATION AZETA AROUND AET ARESH AOM ADZA AANG APALI",
  "ARTAGS AMON APU AWOODS-CREE AMULTIPLE ABINDU ATHIRD ADASHED AELEMENT APRODUCT CECEDES",
  "ASUCCEEDS AOVERBAR ALOZENGE ADOWN-POINTING ABALLOT ACROSSED ASHADOWED ACAT APADA ASHIM AMINNAN",
  "APOVYSHE AMARTYRIA AICHOS ASEMICOLON AHYPHEN ABY AENG BZH APRIME AYANG AZIGZAG AJE ACO AAYIN",
  "AKEHEH AFE AZO AAH AKHO ABO AAY AYIG AZU AY-CREE AOJIBWAY ATEDUNG AMURDA AWIDE ATELEPHONE",
  "AELEVEN ADOES AMEASURED AUNIT AROOK ABISHOP APAWN AFLAG ABALL ANUBIAN ADESCRIPTION AHANGZHOU",
  "ABACK ALUM AE2 ANATTILIK ASHA3 AUSH ALAL ASHAR2 AUR2 AKRYZHEM AOCLOCK ASCHWA ACLICK ABELT ASHO",
  "AES AYERU AMEN ADAMMA AMADDA AWAVY AKIRGHIZ ATETH AHAA AFI ACHO APHO AFO ATSHEG AWU AZI AJO",
  "ALEK ASIMALUNGUN AWIDTH AQUADRUPLE AOCR AFIFTEEN AINVERSE ARAYS ASALTIRE AFIRE AWIND ASTEM",
  "ABESIDE ARIBBON ANOSE ALAK-617 ATENS AKLYUCHEVAYA ASKAMEYTSA BTATYA AKRYUKOVAYA BIEVAN",
  "ACURRENCY ADZ ABARRED AVOICED ALUNATE AEF AHARD ATICK AEH AVO AYOD AGAF AAM ASIXTEEN",
  "AALPAPRAANA AMAHAAPRAANA ALITH ACARET ARDEL AWESTERN ATONE-2 F5 AGE AATTAK AHORA ASVARITA",
  "APARALLEL ABUT AUNDER ANORMAL APAGE AEYE ACLOUD AMALE ARECYCLING ANOTCHED AFISH ASIMILAR",
  "ADOUBLE-LINE ATAB BREE ASALT ACHINESE ALEFT-STEM ATHESPIAN ADALETH ATWELFTHS APREFIXED AASH2",
  "AKAK AESH2 ASAL AGAD ALAK-648 ACLEF AHAND-HOOK AFINGER BLEX ATRAVEL-WALLPLANE ADYNAMIC",
  "ABRACKETED ASEGMENTED AAPOSTROPHE ACROSSED-TAIL BENTRED AYIN BAT ARHA APEH ATEXT ABARREE",
  "ASANDHI ACHILLU ANYO AEI AASTROLOGICAL AEU ATONE-3 AUN AIEUNG ACIEUC AFILLER AHHA AVI ACE AFU",
  "APEE AUR ACRYPTOGRAMMIC AKAVYKA AFIRST ATHIRDS ASET ACONTAINS ANEITHER AIMAGE AKEY ARECTANGLE",
  "AMETRICAL AEIGHTEEN ACONTAINING ASUIT AMONOGRAM ADIGRAM AENVELOPE APINWHEEL ATHEN AREPEAT",
  "ASECOND AHORSE BANDS AITERATION AGAL ABUR AUM AVINE ASHU2 AGESH2 AREFORMED ASLOAN ALARGEST",
  "AFRONT ACHARACTERS ABAMBOOS AEMOJI ABUBBLE AAMPERSAND AETH ATHORN ADIVISION AOU AFISHHOOK",
  "APHARYNGEAL ABEGIN AOVERLINE AANO ASHEI ADZE ANJE ATHOUSANDS AABKHASIAN ALHA AMARKER ATHAL",
  "ASUKUN AGOAL AVERTICALLY ARUPEE AELLIPSIS AKIYEOK ANIEUN ATIKEUT ARIEUL AMIEUM APIEUP ASIOS",
  "ACHIEUCH AKHIEUKH ATHIEUTH APHIEUPH AHIEUH AVEE AJI ATH ANUNAVIK ATH-CREE AMAHAPRANA ASASAK",
  "AFIGURE APAIRED ATURNSTILE ASUBGROUP AJOT AEXTENSION APIECE ATHIRTEEN AFOURTEEN ASEVENTEEN",
  "ANINETEEN ATRIGRAM AMOUNTAIN ADIE ASTAFF ACAR AICE AJAPANESE ALOCATION AAIRPLANE AENDING",
  "ADIALECT-P ATUAREG ABLUE ADRAGON AWOMAN ALENTICULAR ANAME ALOGOGRAM CNSUM ASUBUNIT BTATERS",
  "AQOPH ACRESCENTS ANAGA AOPPOSING ATUG2 AHUB2 AMFON ASECANT ANIZKO AZAPYATAYA AVRAKHIYA",
  "ASVETLAYA AAGOGI ADODEKATA ASIMANSIS ATEMPUS ACUM APROLATIONE AHAND-OVAL FCLAW AMOVEMENT AAWAY",
  "ATOWARDS ALIPS CMB AGREEN ASTICK ABACKHAND BUD ACOMPRESSED ADOLLAR ASHARP AMID AJOINER ASHIMA",
  "AFITA AMILLIONS ATET AFATHATAN ATCHEH APLACE AAD AWITHIN ABBA AODD APOWERS ADIGA ANGO ATAM",
  "BONE-4 AGAN ATAR ASEE AVU ATAA AJU ATHI BSI AFEE ASHWE C ATIR AEAR AHAIR ADAGGER AENCLOSING",
  "ABACKSLASH ASHOE ABELL ARAIN AFLAT APLASTICS AOUTLINED AFALLING ATEARDROP-SPOKED AOPENING AHAT",
  "ASPEECH BURROUND AKATAKANA-HIRAGANA BET ASPIRAL AMEASURE ATALENTS ADUN3 AMASH AGIR2 ADIM AGI4",
  "BU2 ALUGAL ABAN2 AVOS ANASALIZED AMALO ADIPLI AKATO ADIATONIKI AYFESIS ADIESIS AARKTIKO ATALLY",
  "AANGLED AHEEL AMOVEMENT-HINGE ATRAVEL-FLOORPLANE ACHEST ATENSE AEYEBROWS AWRINKLED ATEETH",
  "AMOUSE AFOLDER ASPEAKER AORE ABROKEN ASWASH ABRIDGE ASAMPI ADIGAMMA AKAI BOPPA BHEI AHORI",
  "AGANGIA ASAN AIZHITSA AUK AECH AKEN AVAV ABET ARADI ATATWEEL BTEH AYAA ANAA AAK ALLLA AGGA",
  "ANUMERATOR ATHAN AEK ASIXTEENTH AEVEN AJIHVAMULIYA AUPADHMANIYA AHIP ASUNG AKAN A-A ATALL",
  "AGREAT AAITON ARAE AHAR AYN AAEN ASHI ABEE ATEE AXE AYEE ADEE AJEE AMYA ATOO ALOO AIS AUA",
  "AINFINITY AWIGGLY AREPA ANDA BARROW AAV AVRACHY ATIE APARTIAL ADIFFERENTIAL ANABLA",
  "AAPPROXIMATELY AHOUSE APOSITION ASTILE APOWER ACONTROL ABOW ACORNERS BRESCENT AFEMALE",
  "ASCISSORS ATHREE-D ABLACK-FEATHERED AERROR-BARRED ASUM BINGLE-LINE AHOOKED ARUSSIAN AIZHE",
  "BOTATED ADIVIDER ASUBSTITUTION APALM AKNIFE ADOG ANET ABRUSH AEAT ARICE ADRUM AHOLDING ATUR",
  "AGAP ANJI AMBAA AVOLAPUK AEPIGRAPHIC ANHA AWEIGHT ATROEZENIAN AAIR APEN AENY BRIN2 ADUB AKU3",
  "AHAL ASAR BHID AGIR3 ASHIR AKUSHU2 ALU3 AMUSH3 APIRIG AURUDA ASHARU ABURU ALAK-449 AVYSOKO",
  "AKHOKHLOM ADVOECHELNAYA AZAPYATOY AGROMOPOVODNAYA AOSOKA ALEIMMA ABARLINE AOTTAVA ABEND",
  "AIMPERFECTA ACONTACT BUPPED ASPLIT BQUEEZE AFLICK APEAKS ACHEEKS AKISS AGLASS ABABY BOOK",
  "AORANGE ABUTTON ACOPPER AANTIMONY AEXTREMELY BQUIHOPPER APERCENT ACOMMERCIAL AYEN AAFRICAN AOI",
  "AHENG AYOT ATITLO AYAE AOH AROOT APER AALAYHE ADAMMATAN AKASRATAN AGHUNNA ATTEHEH ABEEH ATEHEH",
  "ABEHEH ANYEH ADYEH ATCHEHEH AVEH APEHEH ANGOEH AGUEH ARNOON ADOACHASHMEE ASTART APARAGRAPH",
  "ARAA ATHAA AZEN AAQ AGEMINATION ANNNA ADOUBLED ASTRESS AANUDATTA AJJA ACIRCULAR ANN AKOMBUVA",
  "AGTER ACLOSING ADKAR ANAG ADZHA AKSSA ABBE APWA ATONE-1 ANAR AQAR AJIL AHIE AEO ALAA AREE AQU",
  "BI AWAA AZEE AGAA BEE ATHEE AMV AWOO APII BOO ATWE BTE AKOO ASII BOO AHOO AFRANKS ACASKET",
  "AFREE ASELECTOR AWAY AOA AMARK-1 F2 ATALING AADEG ALEFT-HAND AMBA AIR AYAJURVEDIC AFLATTENED",
  "AROTUNDA ALEFT-TO-RIGHT AINTERROBANG AFLOWER ASCREEN ABLACK-LETTER ASUMMATION BEMICIRCLE AALL",
  "AMUCH AORIGINAL ACUP ASEMIDIRECT BMILE ABARS AKEYBOARD ARETURN AJOINED AFILE APOINTER",
  "AUMBRELLA ALIGHTNING AHOT APLUTO ANOTES AWITHOUT ATRAFFIC AMAP ACURVING AFENCE ATINY APATH",
  "BOLE AOVERLAPPING ARANGE ANESTED APENTAGON AOVAL AU-SHAPED AMYSLITE ACHRIVI ALAME ASIMPLIFIED",
  "ACOW AWALK AYELLOW ATURTLE AKANA AIU AKOREAN AERA ACUBED AKPA ANJEE BGGA ADHE ANDOLE AYER",
  "AFLOURISH ATUM AREPETITION AUIGHUR AALLAAHU ACHARIOT AOW AEZ BC ATRIDENT ASWIRL ANASAL",
  "ACLUSTER-INITIAL APON AKAD3 ABAHAR2 CL AIDIM AKAL APAD AELAMITE AGESHU BORAZDO APRIZNAK",
  "ANEPOSTOYANNAYA AGOLUBCHIK AMECHIK AKENTIMATA AGORGON AAPLI APARESTIGMENON ATHESEOS",
  "AIMPERFECTUM AHALF-CIRCLE AEYEGAZE-WALLPLANE ASHOULDER ABREATHY AMEDAL ABOARD BUILDING",
  "AFITZPATRICK AMONKEY ACHART ADISK AFACING AMOBILE AINPUT ADOCUMENT AGRINNING AROCKET AONCOMING",
  "ASUBLIMATE AHYPHEN-MINUS APOUND ADEGREE ATOPBAR AHV AWYNN ALEZH ADEZH ATS BESH AEXTRA-HIGH",
  "GLOW ADJE ALJE AKSI AOT ASHHA ANOW ARIGHT-FACING ALEFT-FACING APATAH AQAMATS ARAFE ASIN ADALET",
  "ALAMED AYIDDISH AFOURTH AMARBUTA AWASLA ARUB ASKEWED AMIM BUSIC ABAA AYUT AAG ATHIN AUDATTA",
  "AYYA ADDDA ASIXTEENTHS BANYAKA APLA ACANCELLATION ADELIMITER ANYIS AFIXED-FORM AMCHU",
  "ACANTILLATION ASVASTI BGAW AEASTERN ATONE-6 APALAUNG ABAN ADON AVIN ATAN ALAS APAR AZHAR APHAR",
  "AKHAR AGHAN ACHIN BIL BHAR AXAN AJHAN AHAE BOE ASSANGKIYEOK FTIKEUT FPIEUP FSIOS FCIEUC",
  "ARIEUL-HIEUH APIEUP-SIOS ANIEUN-CIEUC GHIEUH ARIEUL-KIYEOK GMIEUM GPIEUP GSIOS AHEE ALEE AMWA",
  "ASAA BHEE AQE BO ACI ANWA AKAA BWI CAA CE AWEE AZHEE ACHU CEE ATSU CO AFAA APAA ASEBATBEIT",
  "AMWI APWI ADLA ASOUTH-SLAVEY BHII AYOO ARII ATTHO ANGI CAA AKHI BK AFEATHER AAC ARAD ATYPE",
  "ALAI AKANG ACENTRALIZATION APARENTHESES AULU ALENGA ASUKU AZAL ADANG ARIGHT-HAND AUC AEP BRR",
  "ASATANGA BNAKE AUS AAO AMIDDLE-WELSH ARIGHT-TO-LEFT AQUILL AISOLATE AOHM AHEADED ABASE",
  "ASQUIGGLE APEDESTAL AMEMBER AIDENTICAL ACAP ARELATION ABOWTIE BAG AELECTRIC ACROP AHOURGLASS",
  "AFROWN AVANE ADEL ASCAN AFOOT ASHORTS ADEVICE AFORK ASHOGI AHAMMER BEAVEN AWHEEL AFROWNING",
  "AMERCURY ABEAMED APAPER ADRAUGHTS AHELMET APENTAGRAM DCIL AFLORETTE ARIGHT-SHADOWED AJOIN",
  "AARROW-TAIL ASQUARES BERIFS AINTEGRATION AAPPROXIMATE AELLIPSE ACUSP AARROWHEADS ADZELO AYERI",
  "AEIE AZATA AKAPA AOOU AYAH AZZA AKYEE ASPIRIT ARAM AMEAT AGRASS ATIGER AGOLD ABONE BIRD",
  "AJ-SIMPLIFIED ATOOTH APIG AWINE ARAT APOSTAL AHP ANIGHT AMM AKM ATWENTY-FIVE BOGETHER AOX AEX",
  "APOT ANDE CU ALIP AGUR AKUT ASUR AMBEE AKPO ABHE AMBE AGBE ALENGTHENER AMONOCULAR ANDAA ASUU",
  "AYOQ ALOQ AREN AEGYPTOLOGICAL ACUATRILLO ARUM ALONGA APOETRY ASS AIA AUI AALAYHI BS-SALAAM",
  "AOIL AFRAME AOBOLS ALOTUS AENT CC ANIKOLSBURG ARUDIMENTA ACLUSTER-FINAL ALOW-FALLING AIMIN",
  "ABALAG ASHITA AAMAR ABULUG ADIN AKID AGABA AUMUM AKUL AMIN BUG ASIG4 AINSERT ANTAP CEUM BYAM",
  "AXYEEM ATONE-8 ASHORTHAND AFORMAT ATIKHAYA AKRYZH ADIRECTION APROSTAYA ATRESVETLAYA ASLOZHITIE",
  "APOVODNAYA AGROMNAYA EOKRYZHEVAYA AEKFONITIKON AKENTIMA BLASMA ADYO ATROMIKON ADIGORGON",
  "ACHROMA ADIASTOLI AARSEOS BLTA ATURN APERFECTA AKNUCKLE AHAND-CURLICUE ASEQUENTIAL BHAKING",
  "ATILTING ADREAMY AEYEGAZE-FLOORPLANE AJOKER AACE AJACK AOK AGLOBE AFOOD ABOTTLE ACAMERA",
  "ATHUMBS AWOMANS ASILHOUETTE APOLICE ASWEAT ABANKNOTE AFLOPPY ARECEIVER AMAILBOX APHONE ALOCK",
  "AKISSING ASLIGHTLY AQUILT ACHECKER ARAILWAY AAQUA AIRON AREGULUS AISOSCELES AFINGER-POST",
  "ADOWNWARD ACOMPONENT ANO-BREAK ADENTAL ABILABIAL AFENG ADEPARTING AKORONIS AFERMATA ASTIGMA",
  "AIO AGJE AUKRAINIAN ASHCHA AUPTURN AAYB ABEN AGIM AINI AXEH AVEW AYIWN APIWR AKEH AETERNITY",
  "ASEGOL AGERESH AHATAF BOLAM AMAPIQ ATSADI AQOF ATAV ACUBE AVERSE ADECIMAL BDAL BAHAL BDAHAL",
  "BUL ARREH AJEH ASUPRALINEAR CBLINEAR AHARKLEAN ARISH APTHAHA AZQAPHA AGBA AJONA ADESCENDING",
  "ANASALIZATION AIY BT AAR APRISHTHAMATRA AAW AUUE AGHHA ASPACING AANJI ATWO-CIRCLE AMONTH",
  "ACREDIT ATENTH AFIFTH AGAYANNA AJAYANNA ATAALUJA ADDAYANNA AMUURDHAJA ADAYANNA CNTAJA ABAYANNA",
  "ASAYANNA AAELA-PILLA AKETTI AGAYANUKITTA ANEN AYAK ASUA AYY AGSUM ABZHI AKKA AHALANTA A-KHYIL",
  "AYWA ACOUNCIL ASSANGNIEUN ANIEUN-TIKEUT AMIEUM-PIEUP AKAPYEOUNMIEUM APIEUP-TIKEUT GSIOS-TIKEUT",
  "GCIEUC AKAPYEOUNPIEUP ASIOS-KIYEOK FTIKEUT FPIEUP FCIEUC APANSIOS ASSANGIEUNG AYESIEUNG",
  "AKAPYEOUNPHIEUPH AYEORINHIEUH ANIEUN-SIOS AYEO AWAE BEO AKIYEOK-SIOS ARIEUL-THIEUTH GPHIEUPH",
  "GTIKEUT AMIEUM-SIOS ALWA AMAA BEE ASWA BHWA AQAA ATWA ACU BAA BWA ANEE BYU CE AKEE BWA BXA",
  "AZHU CI CO ADDO AGGE ATHU CWA APHE AMWE APWE AHNA ANAH BV AQUO CU ASV ATLA CE CI CO CU",
  "ASTROKES APWAA ATWAA BTO AKW ACOO BWI CAA AMOO BWAA ANOO BWAA ASWAA BHOO AYWAA AFOO AN-CREE",
  "ATHII COO CWAA AQOO ATLHA ALH AHWE AKHE AING ASSO ALY AMUOY ABEI BUON APRAM E-MUOY FPII FBEI",
  "GUON AOY AKAY ATTHAA ADENE ABEAVER ATRA ADAP ANRA ARATHA ASAT AKHUEN ASAM APEPET ACARIK",
  "AJEGOGAN APING AMANDAILING AKARO ANYET AIH AKATHAKA ASUSPENSION ALEADER APOP AINSERTION ACLOSE",
  "AINVISIBLE AWON ADRACHMA ACONSTANT AINFORMATION ASOURCE AFIFTHS ASIXTH AOPEN-HEADED ACONTAIN",
  "ASPHERICAL ADIVIDE ACONTOUR ASURFACE ALAZY AMULTISET ATRUE AMULTIMAP AFACTOR ASEGMENT",
  "ACOMPOSITION AALTERNATIVE ADIRECT ACURRENT AFEED ANEWLINE ABRANCH BANK ASNOWMAN AOPPOSITION",
  "AFLORAL ASKULL APEACE ATHUNDER ALAST ACLUB ANATURAL AWHEELCHAIR AGEAR ALINES ASNOW ABEHIND",
  "AENTRY ATRUCK ASHIELD ACASTLE ATENT ASAFETY AFIST ABALLOON-SPOKED ASNOWFLAKE ATIGHT",
  "BOP-LIGHTED ARIGHT-SHADED ALEFT-SHADED ABACK-TILTED AFRONT-TILTED APERPENDICULAR AOUTER",
  "ADIVIDED ACONCAVE-SIDED ASEMICIRCULAR APART AAROUND ASCHEMA AHEXAGON ABACKSLANTED AAZU ABUKY",
  "AVEDE AGLAGOLI ADOBRO AYESTU AZHIVETE BEMLJA ADJERVI AKAKO ALJUDIJE ANASHI AONU APOKOJI ARITSI",
  "ASLOVO ATVRIDO AUKU AFRITU AHERU ASHTA AYATI ASIMA AWAU AYAJ CZH CGH ASSU CI ACCHE AKYA ADJERV",
  "AMONOGRAPH ATRANSPOSITION APARAGRAPHOS AMEDIEVAL ACLIFF ATABLE ASEAL ATHREAD ASNOUT ARAP APAW",
  "ABOLT ACLOTH ABAMBOO ASILK BHEEP ACLOTHES AMOUND ALEATHER AFLY AGHOST AWHEAT AFROG ACOVER",
  "ASPOON AENCLOSURE ACHILD AWORK ADRY ASTEP AAXE ASTONE ADEER AOVERLAID ASEMI-VOICED AENN AST",
  "AWOOD ASTOCK ACALL ASCHOOL AEV AHON AMEGA ATWENTY-TWO ADM AMB ACM AGRACE AINCREASE AGATHERING",
  "ACOMPLETION AOP ABAT APUT AMIT AFAX AVY ANDI CAP CO AHLI ALAP AKUOP ACUT ANZA ASOT ANJU AYIT",
  "AUH ANDEE AMBI COO ANGGOO AMBU AGBU ANGGU AMBO ANGGO DE EN ADWE ATAE AMEEEE ANJAEM ASEUX AYUQ",
  "ANSHA APEUX ANTEE AWUE AREUX APUAE AFOM APOLISH BLACEHOLDER AHEADSTROKE AEA ASAW AKOI",
  "ABLACKLETTER ATIL ANUNG AINTERLINEAR AA2 AMNAS AHERMIONIAN AEPIDAUREAN ASHIP AROSETTE ATT AEW",
  "AQAAF AEB AFLEURON AIC BQ AOQ AMID-LEVEL AHUNDREDS ASIXTY-FOURTH ATHIRTY-SECOND APAN ASHESH",
  "ADIM2 AANSHE BSHGAB ADUN AISH AGESHTIN BUM AKIN ALISH AIB AKA2 CD5 ALUL CH AMES ANIM AZU5 ANIN",
  "ALIMMU AASSYRIAN AMAEMBA ALET AMEUT ALEERAEWA ASHOQ ANSHUT AMAEM BBIT ANGOM ALAAM AROG ATONE-7",
  "AXW AOVERLAP ATSATA ASTRANNO APODCHASHIE ACHASHKA ASTOPITSA AMRACHNAYA AOXEIA AVAREIA",
  "APARAKLITIKI AEXO AAPOSTROFOS AISON ASYNAGMA ATESSERA APARAKALESMA AALLO AKRATIMA ACHRONON",
  "AARISTERA ATETARTOS AFANEROSIS ASKLIRON ACHROA AREPEATED ABREATH ATIME AWHOLE AFINGERED APEDAL",
  "ASEMIBREVIS AMINIMA ASEMIMINIMA APERFECTUM AHUMAN AJOY AKNUCKLES ATOUCH AGRASP ASTRIKE BYMBOLS",
  "AFOREHEAD AEYELASHES AWRINKLES AALIF ALAKH AMASK ABOWL ACAKE BHRISTMAS ABALLOON APARTY",
  "AMILITARY BACHINE ARUNNING BACING ACONSTRUCTION AOFFICE APOST ALOVE AWAVING AELEPHANT ACHICK",
  "AOLDER APURPLE AANGER ASLEEPING ATHOUGHT BREND ACOMPUTER BALENDAR APUSHPIN AWAVES ALETTERS",
  "APOMMEE AFLYING AICON APICTURE ABUBBLES AMOOD ATEARS ACOLD ASTUCK-OUT APOUTING ACRYING ATRAIN",
  "ABUS BATH ASULFUR AROCK ACROCUS ABRICK ASTRATUM ATARGET ABROWN ASHADED AFORMEE ACOVERING",
  "APREGNANT AFORTY-FIVE ATHIRTY-FIVE ACENT BOPYRIGHT AFEMININE AORDINAL APILCROW AIJ AYR",
  "ALATERAL AALVEOLAR ALJ ANJ AHWAIR AYOGH ADB ARAMS ASQUAT ATC ALS BZ APERCUSSIVE AVOICING",
  "ASHELF AARCH AHOMOTHETIC BETA APAMPHYLIAN ATELEIA AFEI ADEI ABYELORUSSIAN-UKRAINIAN ATSHE AKJE",
  "ADZHE APNEUMATA ASEMISOFT ABASHKIR APALOCHKA AKHAKASSIAN AZJE ADZJE ASJE ATJE AALEUT ADZZHE",
  "BCHE ALIWN AGHAD ACHEH AJHEH ASEH ATIWN AEMPHASIS ADRAM AZAQEF AQATAN AGERSHAYIM APARA",
  "ATELISHA AMERKHA AHIRIQ ASOF AHET AFOOTNOTE ASAFHA ARAY AMILLE ADATE ASALLALLAHOU AKASHMIRI",
  "AMADDAH AAYAH ARECTANGULAR ASINDHI AALAPH AGAMAL CRSHUNI ADALATH AYUDH ASEMKATH ABHETH ARBASA",
  "AZLAMA AHBASA AESASA AKHAPH ATTAA AHHAA AKHAA AZAA AWOLOSO ABIT ATIT AKAAF AEPENTHETIC",
  "AOVERLONG ANEQUDAA AQITSA AAZ BP AOVERSTRUCK ABASELINE ASAH AOOE AKHHA ADDDHA BENOMINATOR",
  "AISSHAR ABINDI AYEAR ANAKAARA APOLLU ATTTA AONE-HUNDRED-AND-SIXTIETH AFORTIETH AEIGHTIETHS",
  "ATWENTIETH JS AKAYANNA ANAASIKYAYA ACAYANNA ATTAYANNA ANAYANNA ATAYANNA APAYANNA ALAYANNA",
  "AAEDA-PILLA AIS-PILLA APAA-PILLA AGAETTA-PILLA AKHAI ATHONG AFAN ALING BOOT ASANSKRIT AKON",
  "ASEMIVOWEL AKHMU A-UM ARNAM ABCAD AMDUN ASGAB APHUR ASHOG ARGYA AGRAM A-DZUD ALOGOTYPE AGCIG",
  "BNYIS ANGAS ABZUNG AZLA AMIG AGUG BYON CAS AKHANG AYAR ATSHES AMAR ALCE AGRU ARGYINGS ABEAT",
  "ARDO BJE BGYAN ABRDA ARNYING AMCHAN ARUMAI AELIFI ALABIAL ANIEUN-KIYEOK ATIKEUT-KIYEOK",
  "ARIEUL-NIEUN ASSANGRIEUL AKAPYEOUNRIEUL APIEUP-KIYEOK GSIOS-KIYEOK GCHIEUCH GTHIEUTH GPHIEUPH",
  "AKAPYEOUNSSANGPIEUP ASIOS-NIEUN FRIEUL FMIEUM FCHIEUCH FTHIEUTH FHIEUH AIEUNG-KIYEOK",
  "APHIEUPH-PIEUP ASSANGHIEUH ATIKEUT-RIEUL AYA-YO BO-YA FE DI BU-YEO F DI AARAEA ANIEUN-PANSIOS",
  "ARIEUL-KIYEOK-SIOS GPIEUP-SIOS GKAPYEOUNPIEUP GPANSIOS GKHIEUKH GYEORINHIEUH AMIEUM-KIYEOK",
  "GPANSIOS APIEUP-HIEUH AYESIEUNG-SIOS JPANSIOS AHHWA ARWA ASHAA AQWI CEE D ABWA AVAA ACEE AXO",
  "ANYAA CEE AKWEE ADAA BDU CI CAA CE AJAA BWA AGWA CI CEE D BGU CI CO ACHAA APHAA ATSEE AFWA",
  "AMWEE ABWI CEE AFWI CEE APWEE ARIKRIK AGV ALV AQUA CE CI CV ADV ATLV BSV AWV AYV AAAI AWII",
  "APWII COO ATWI DI COO BTI AKWII CO DO BAH ACWE CII CO DO AMWII CO DO AATHAPASCAN ANII BWE ALWE",
  "CI DI CO DO CAA ASWE CI DI CO DO C BHWI EI DO EO DAA AYWE CI DI CO DO AR-CREE BOO BWAA AFWAA",
  "ATTHE DI AHII AQII ATLHE DI DO ALHI CO CAA AGHO AJJU CO CI ADZU CO CEE CI AQAI AONN BS AAESC",
  "APAMUDPOD BHILIPPINE ARY AINHERENT AMUAN AUBADAMA ABALUDA ACYA AAAY AMAY ASAY BHOY AYAY ANWI",
  "DI CO DO AYAN AAUE AKVA AXVA AUY AOAY ALAE ADAP-MUOY EPII EBEI FUON EPRAM ANGKA AMPA ARANA",
  "ASTRONG BURANG AAKARA AIKARA AUKARA AOKARA ASARI AJNYA APANTI CMADA AWINDU ADONG BUNG AKEMPUL",
  "ELI ATUK ALANTANG APASANGAN ALEU APAKPAK ASOUTHERN ANORTHERN APANGOLAT AMLA AHLA ATA-ROL",
  "ACER-WA ATSHOOK AUNN AOV ATTUDDAAG AMUCAAD ACAKRA AMIDLINE AANTARGOMUKHA AVAMAGOMUKHA",
  "AARDHAVISARGA ALOW-9 AHIGH-REVERSED-9 BYPHENATION AEMBEDDING ADIRECTIONAL AOVERRIDE AUNDERTIE",
  "ATIRONIAN BRICOLON AFUNCTION AINHIBIT ASYMMETRIC BWAPPING AACTIVATE ASHAPING ANATIONAL ASHAPES",
  "AFRENCH ALIRA AEURO AKIP APESO ASOM AKEYCAP AUPWARD AACCOUNT APLANCK ARESPONSE AOUNCE ASIXTHS",
  "ATHERE ACOPRODUCT APROPORTION AASYMPTOTICALLY BCTUALLY AGEOMETRICALLY APRECEDE ASUCCEED",
  "ANEGATED APITCHFORK AWATCH AERASE ABENZENE ATOTAL AQUOTE AUNDERLINE AENTER ANOTCH",
  "AOPEN-CIRCUIT-OUTPUT APRINT ATRISEME BETRASEME APENTASEME AGROUND ARECORD ANULL ATRANSMISSION",
  "AACKNOWLEDGE ATABULATION ASHIFT ALINK AESCAPE ACANCEL ASUBSTITUTE AGROUP ADELETE ABLANK ACHAIR",
  "AIDENTIFICATION ADARK ACROSSHATCH APARALLELOGRAM AASCENDING ANODE ABEVERAGE ACROSSBONES",
  "BADUCEUS ALAKE AURANUS ANEPTUNE ASPADE AUNIVERSAL ATYPE-3 F4 F5 F6 AGREATER ALESSER APICK",
  "AANCHOR BLEMBIC ACONVERGING APARTNERSHIP ALANES ATWO-WAY ALANE AMERGE ADRIVE ASLOW ARESTRICTED",
  "AINTERLACED ACHURCH AFOUNTAIN AHOLE ASKATE AHEADSTONE ABLADE ATAPE AVICTORY AWRITING ANIB",
  "ARECTILINEAR APETALLED ACHEVRON ASPARKLE APROPELLER ADROP-SHADOWED AWEDGE-TAILED AS-SHAPED",
  "APRECEDING AGAPPED ADIRECTLY ABINDING ASMASH AINTERIOR FSECTING ASLOPING AANTIRESTRICTION",
  "ACONSECUTIVE ASIGNS BMALLER ALARGER ABINARY ACIRCLING AOCTAGON AERIS AOTU ASPIDERY BHTAPIC",
  "ATROKUTASTI ALATINATE ACAUDATE AALFA AVIDA ADALDA ASOU AHATE ATHETHE AIAUDA ALAULA AAKHMIMIC",
  "AL-SHAPED AHEI ADJA ASPIRITUS ALENIS ABOHAIRIC BERBER AACADEMY AYAKH CQ CM CP CZ ASSE AZZU CI",
  "CE CO AXYA CE AINTERPOLATION AOMISSION AFORKED AANCORA APARAPHRASE AGUARD APATTY ACROSSBAR",
  "ADIVINATION BEATH AMOTHER ATRUNK AJADE AMESH AEWE AMORTAR ACART BITY AGATE ATANNED ALID",
  "ATURBAN ADOOR AFUR ASTEAM AFATHER ASLICE AMELON ASWEET AFIELD ASPEAR ATRACK AJAR ASELF ABOAT",
  "BLOOD BADGER BODY ACAULDRON AFLUTE ASTANDARD ALEVEL APROLONGED AKOTO ACH AONG AZY AHZ BG",
  "AMETAL AHAVE ASOCIETY BPECIAL AFINANCIAL ACONGRATULATION ALABOR ASTUDY BUPERVISE AENTERPRISE",
  "ARESOURCE AALLIANCE AREACH ATWENTY-ONE HTHREE HFOUR AKG AMW ACC BD AWAITING ATAMING",
  "APOSSESSION AFOLLOWING ABITING APREPONDERANCE ADARKENING AFAMILY ADECREASE AMEET AKEEPING",
  "AINNER BX AAX AUO APIT CP CE BUP BYT ABBI CO CUT D ANBIE AHMO AMOP BY AFOX AVEP BUR ADAT ATAT",
  "BUOT BOT BUP ADDUR ANUT ALIE BYR AGOT BEP AKIT BAP AGGUO COP AHXIT CUO COP ANGOP CE AHIT AWAX",
  "CP BUO AZOT BUP CR ACIP BUOP BYT C CP AZZIET ANZUP ASAP ACHAT ARRO CE ASHAT COP CET CUR CY",
  "AQOT AJJIE CUT CY ANJO BYIT DP COP AYIE BUOP AKPEE AGBEE ANGGEE AHIN AKPI AGBI ANGGI AHAN",
  "AMGBA ANJA ABOO AKPOO AGBOO AVOO ADOO ANDOO AZOO AJOO ANJOO AHUN AKPU ANGON ABHO AGBO ADHO",
  "ANGEN AHEN AKPE AZEMLYA ABROAD BLENDED BINOCULAR APAYEROK ADZWE AZHWE ADZZE ATSWE CSE BCHE",
  "ARIEE ALEEEE ASHEUX ANUAE BJUAE AKEUX APUE ANGKWAEN AMBEN ANTUU ASAMBA ANJAEMLI ASHANG ATZ",
  "BRESILLO ASQUIRREL AVISIGOTHIC BEND ACON ASALTILLO AANGLICANA ASCOTS BIGMOID AHASANTA ADDHO",
  "AMARK-3 AHTA APLOPHU ACALYA ATIKEUT-PIEUP HSIOS HCIEUC ARIEUL-SSANGKIYEOK ACECAK ALELET AWULU",
  "ARERENGGAN APISELEH AREDUPLICATION AKHHO ANUENG ADDHAA AOPEN-O AHANDLE ASERIF AKOK ANGOU AIYEK",
  "AKAZAKH AORNATE AALLAAH ASALLA AUSED AKORANIC AWASALLAM ACONJOINING ASESAME ACENTRELINE",
  "AREPLACEMENT AB008 D1 D7 D6 D3 D2 D9 D4 D5 BOAR AOLIVE AWOOL ABATHTUB ALIQUID ADRACHMAS",
  "ASEXTULA APEDESTRIAN ABOOMERANG ACARPENTRY APLANE AEAGLE ADOVE CI ANENOE ASADE AGAY AEGG AIAN",
  "ACAYN ABRA AEHCHA BIN AHYA AEHKA AOIN AEHPA CTA DSA BYN ALAN AMAQ AIJE AA301 D2 D3 D4 D5 D6 D7",
  "D8 D9A C10 D1 D2 D4 D5 D6 D7 D8 D9 C20 D1 D2 D3 D4 D5 D6 D7 D8 D9 C30 D1 D3 D4 D5 D6 D7 D8 D9",
  "C40 D1 D2 D3 D4 D5 D6 D7 D8 D9 C50 D1 D2 D3 D4 D5 D6 D7 D8 D9 C60 D1 D2 D3 D4 D5 D6 D7 D8 D9",
  "C70 D1 B501 D2 D3 D4 D5 D6 D8 D9 C10 D1 D2 D3 D5 D6 C20 D1 D3 D4 D5 D6 D7 D8 D9 C30 AZAYN AAYN",
  "ANA-2 BE-2 ARA-2 ASA-2 ATA-2 BE-2 AAAN BEE ARINGS AWAW-AYIN-RESH AMEM-QOPH AAEB CG CY CK AOEK",
  "AAET BMB AECS BD BG CY BJ AUNK AELY AOEE AEMP BSZ BTY BZS BNT-SHAPED AKINNA ALESH AGAH AMAH CE",
  "A-CHAL ER BKHYUD BPHRU AA-1 C2 C3 CEU CO CU CWO B001 D2 D3 D4 D5 EA D6 EA EB D7 D8 D9 C10 EA",
  "D1 D2 D3 D4 EA D5 D6 D7 EA D8 D9 C20 D1 D2 D3 D4 D5 D6 EA D7 D8 EB D9 C30 D1 D2 EA D3 D4 D5 D6",
  "D7 D8 D9 EA C40 EA D1 EA D2 EA D3 EA D4 D5 EA D6 EA EB D7 D8 D9 C50 D1 D2 D3 D4 D5 D6 D7 D8 D9",
  "C60 D1 D2 D3 D4 D5 D6 EA EB EC D7 D8 D9 C70 D1 D2 D3 D4 D5 D6 D7 D8 D9 C80 D1 D2 D3 D4 D5 D6",
  "D7 D8 D9 C90 D1 D2 D3 D4 D5 D6 D7 EA D8 EA D9 B100 E-102 EA D1 EA D2 EA D3 D4 EA EB EC D5 EA",
  "EB D6 D7 EA EB EC D8 D9 C10 EA EB D1 D2 D3 D4 D5 EA D6 D7 D8 D9 C20 EB D1 D2 D3 D4 D5 EA D6 D7",
  "D8 D9 C30 D1 EC D2 D3 D4 D5 EA D6 D7 D8 D9 C40 D1 D2 D3 D4 D5 D6 D7 D8 D9 C50 D1 D2 D3 D4 D5",
  "D6 D7 D8 D9 C60 D1 D2 D3 D4 D5 D6 D7 D8 D9 C70 D1 D2 D3 D4 D5 D6 D7 D8 D9 C80 D1 D2 D3 D4 D5",
  "D6 D7 D8 D9 C90 D1 D2 D3 D4 D5 D6 D7 D8 D9 B200 D1 D2 EA EB D3 D4 D5 D6 D7 EA D8 D9 EA C10 D1",
  "D2 D3 D4 D5 EA D6 EA D7 D8 D9 C20 D1 D2 D3 D4 D5 D6 D7 EA D8 D9 C30 D1 D2 D3 D4 D5 D6 D7 D8 D9",
  "C40 D1 D2 D3 D4 D5 D6 D7 D8 D9 C50 D1 D2 D3 D4 D5 D6 D7 D8 D9 C60 D1 D2 D3 D4 D5 D6 D7 EA D8",
  "D9 C70 D1 D2 D3 D4 D5 D6 D7 D8 D9 C80 D1 D2 D3 D4 D5 D6 D7 D8 D9 EA C90 D1 D2 D3 D4 EA D5 D6",
  "D7 D8 D9 EA B3 C00 D9 EB EC C13 EA EB EC C29A C32 EA EB EC D6A EB EC C59A C64A D8A C71A D2 D3",
  "D4 D5 D6 D7 D8 D9 C80 D1 EA D2 D3 EA D4 D5 D6 EA D7 D8 D9 C90 D1 D2 D3 D4 D5 D6 D7 D8 D9 B400",
  "E-VAS D1 E-VAS D2 E-VAS D3 E-VAS D4 E-VAS D5 E-VAS D6 E-VAS D7 E-VAS D8 E-VAS D9 E-VAS C10",
  "E-VAS EA D1 E-VAS D2 E-VAS D3 E-VAS D4 E-VAS D5 E-VAS D6 E-VAS D7 E-VAS D8 E-VAS D9 C20 D1 D2",
  "D3 D4 D5 D6 D7 D8 D9 C30 D1 D2 D3 D4 D5 D6 D7 D8 D9 C40 D1 D2 D3 D4 D5 D6 D7 D8 D9 C50 EA D1",
  "D2 D3 D4 D5 D6 D7 EA D8 D9 C60 D1 D2 D3 D4 D5 D6 D7 D8 D9 C70 D1 D2 D3 D4 D5 D6 D7 D8 D9 C80",
  "D1 D2 D3 D4 D5 D6 D7 D8 D9 C90 D1 D2 D3 D4 D5 D6 D7 B507 C14 D7 D8 D9 C22 C31 D2 D4 D5 D6 D7",
  "D8 D9 C40 D1 D2 D5 D7 D8 D9 C50 D1 D2 D3 D4 D5 D6 D7 D9 C63 D4 D5 D6 D8 D9 C70 D1 D2 D3 D4 D5",
  "D6 D7 D8 D9 C80 D1 D2 D3 D4 D5 D6 D7 D8 D9 C91 D2 D4 D5 D6 D8 B600 D1 D2 D3 D4 D6 D8 D9 C10 D1",
  "D2 D3 D4 D5 D6 D7 D8 D9 C20 D1 D2 D3 D4 D6 D7 D8 D9 C34 D7 D8 C40 D2 D3 D4 D5 D6 D8 D9 C51 D2",
  "D3 D4 D5 D6 D7 D8 D9 C60 D1 D2 D3 D4 B701 D2 D3 D4 D5 D6 D7 D8 D9 E-2 F3 F4 F6 C10 D1 D2 D3 D4",
  "D5 D7 C26 C32 B800 D1 D2 D3 D4 D5 D6 D7 BA001 E2 E3 E4 E5 E6 E7 FA FB E8 E9 D10 E1 E2 E3 E4 E5",
  "E6 E7 E8 E9 D20 E1 E2 E3 E4 E5 E6 E7 E8 E9 D30 E1 E2 CBAAFILI CJ CK CM CNG CO CRU CU CW CYANNA",
  "DIN CZHAAKKU BB001 E2 E3 E4 E5 E6 E7 E8 E9 D10 E1 E3 E6 E7 D20 E1 FF FM E2 FF FM E3 FM E4 E6",
  "E7 E8 E9 D30 E1 E4 E7 E8 E9 D40 E1 E4 E5 E6 E7 E8 E9 D50 E1 E3 E4 E5 E6 E7 E8 E9 D60 E1 E5 E6",
  "E7 E9 D70 E3 E4 E6 E7 E8 E9 D80 E1 E2 E5 E6 E7 C118 D20 E2 E3 D31A FB D64 D71 D80 E8 D91 CACUS",
  "DFILI CB CUNDANCE CYSMAL BCCENT-STACCATO EPT DOMMODATION ERDION DUMULATION CUTE-GRAVE-ACUTE",
  "GMACRON BDAK CDAK DRESS HED CHESIVE CI CMETOS DISSION CO CULT CVANCE FTAGE BED CEYANNA CL CNG",
  "CR DIAL CS DCULAPIUS CYANNA BFFRICATION CGHANI COREMENTIONED CSAAQ CTER BGAIN FST CE CGRAVATED",
  "IION CUNG BHAD DGGAR DNG CH CSA DDA BID CHVUS CKARA CLM CNN DU CVA DILIK CYANNA BKBAR CSA",
  "CTIESELSKAB BL-JUZ DLAKUNA CAF DN DRM DYHAA FIM HAA ENAA CF CGIZ CIEN DFU DGNED CKALI G-2 CLAH",
  "FOU DI CPA EPRANA CT DERNATION CUM BMALGAM HATION CBA DULANCE CERICAN HS COUNT CPHORA DS CULET",
  "BN-NISF CAP DTOMICAL ERICHISMA CDAP CGED EL DKA EHANKHU DRY DSTROM DUISHED ELAR CH DAA DU EM",
  "FAA ENNA CIMAL CKH CN DAAU DUITY CPEA CSUZ CT DENNA DICLOCKWISE-ROTATED EFONIA EKENOKYLISMA",
  "IMA EMONIATE HY-2 CUSVARAYA BOR CU BPAATO DRT CESO CIN CLOUN CODERMA FXIA DLLON DSTROFOI",
  "DTHEMA GS CPLE EICATION DROACH IES CRIL CUN BQUAFORTIS ERIUS BR-RAHEEM GMAN EUB CAD DEA-A GE",
  "HO GI GU FE CDHACANDRA CE DPA CGI DON ESYNTHETON ETERI CIES CKAANU EB CLAUG CMOUR DS DY",
  "COUND-PROFILE ERA ESING CPEGGIATO CRAY DIVE FING DOWHEAD-SHAPED CSENIC CTA EBE DICULATED EST",
  "DS CUHUA BS-SAJDA FLAATU CAL2 DT CCENT DIA CH3 D9 DES CIA-AUSTRALIA CPER DIRATED HION CSALLAM",
  "DERTION CTERISCUS HKS HM DONISHED DRAEA EONOMICAL CYURA CZ BTH-THALATHA DARVAVEDIC DLETIC",
  "CIKRAMA DU DYA CMAAU CNAH COM CT DACHING DENTION DHACAN BUBERGINE CGMENTATION DUST CNN",
  "CRAMAZDAA K-2 KHA DIPIGMENT CSTRAL CTO EMATED FOBILE DUMN CYANNA BVAKRAHASANYA CERAGE COCADO",
  "BWC CE CQ CX CZ BYANNA CER CIN-DALETH BZZA AB005A C10 D1 D2 D3 D4 D5 D6 D7 D8 D9 C20 D1 D2 D3",
  "D4 D5 D6 D7 D8 D9 C30 D1 D2 D3 D4 D6 D7 D8 D9 C40 D1 D2 D3 D4 D5 D6 D7 D8 D9 C50 D1 D2 D3 D4",
  "D5 D6 D7 D8 D9 C60 D1 D2 D3 D4 D5 D6 D7 D8 D9 C70 D1 D2 D3 D4 D5 D6 D7 D8 D9 C80 D1 D2 D3 D5",
  "D6 D7 D9 C90 D1 B100 D2 D4 D5 EF EM D6F EM D7F EM D8F EM D9F EM C20 D1 D2 D3 D5 D7 D8 C30 D1",
  "D2 D3 D5 C40 D1 D2 D5 D6 C50 D1 D2 D3 D4 D5 D6 D7 D8 D9 C60 D1 D2 D3 D4 D5 D6 D7 D8 D9 C70 D1",
  "D2 D3 D4 D6 D7 D8 D9 C80 D1 D2 D3 D4 D5 D9 C90 D1 B200 D1 D2 D3 D4 D5 D6 D7 D8 D9 C10 D1 D2 D3",
  "D4 D5 D6 D7 D8 D9 C20 D1 D2 D5 D6 D7 D8 D9 C30 D1 D2 D3 D4 D6 C40 D1 D2 D3 D5 D6 D7 D8 D9 C50",
  "D1 D2 D3 D4 D5 D6 D7 D8 D9 B305 BA-2 CARERU CCKSPACE DON DTRIAN CDGE DMINTON CG3 DA DEL DGAGE",
  "DS DUETTE CH DIRGOMUKHA DT CIMAI DRKAN CLD DLET EPOINT CNANA DD EAGE DG DJO DTOC CP CRA2 DBER",
  "DIYOOSAN DLEY DREKH EIER CSEBALL DH DKET GBALL CTHAMASAT DTERY CU CX BB CAA DP DT DX CEE DP DX",
  "CIE EP ET EX DP DT DX COP DT DX CUO EP EX DP DR EX DX CY DP DT DX BEACH DDS DM DN ES DR EDED",
  "DTING CCAUSE CD CEHIVE DR DTA ELE CFORE CGINNER GING CITH CLGTHOR DLHOP CNDE DTO CORC CP",
  "CRKANAN CX CYYAL BH CAA DM DTTIPROLU CEE CI COO CU BIB DLE-CREE CCEPS DYCLE HS GIST CDENTAL CE",
  "DP DT DX CKINI CLLED EIARDS FONS CNOVILE COHAZARD CP CRTHDAY DU CSAH DECTING DMILLAH EUTH DON",
  "CTCOIN DE DTER CX BJARKAN BKA- BLA CINK COCK-1358 G2 G3 G4 G5 G6 G7 DND DSSOM DW EFISH EING",
  "CUEBERRIES BOA CMB COKMARK ES DT ES CP CRAX F-2 G3 DUTO DZAYA EY CT DH DTOM-LIGHTED HSHADED",
  "CUNDARY DQUET CWING DLING CXING CY DS BQ BRACE EKETS DIN DKCET DNCHES GING CEAD EKTHROUGH",
  "EST-FEEDING DVE-MACRON EIS CI DDE DEFCASE FS DGHTNESS DSTLE COCCOLI DNZE DOM BSDUS CKA- DUR",
  "CTAR BUCKET ELE CFFALO CG CILDINGS CLB DL EHORN ES FEYE CMPY CNG DNY CO DP DX DY CP CR2 DRITO",
  "DX CSINESS DSYERU DT ES CTTER GFLY CUMISH CX BWE BXG BYP CR DX CT CX AC-18 C39 B001 D2 EA EB",
  "EC D3 D4 D5 D6 D7 D8 D9 C10 EA D1 D2 D3 D4 D5 D6 D7 D8 D9 C20 D1 D2 D3 D4 BAAI DNG CBBAGE-TREE",
  "DINET DLEWAY CCTUS CDA CESURA CH CI CL DC EULATOR DX CMEL DNUC DPING CNCER DDLE EY DE DG DNED",
  "EON DOE CPITULUM DO DPED DRICORN DTIVE DUT CRDS DE DOUSEL DP DRIAGE EOT DS DTRIDGE EWHEEL",
  "DYSTIAN CTAWA CU DDA DTION CVE CX BCA DA CE DE CHA EA DEE DHA FA EE FE EI EO EU DI DO DU CI CO",
  "CU BEALC CCEK CDI CEB DV CIRT CLEBRATION DSIUS DTIC CN DTURIAL CONGCHIEUMCHIEUCH MIEUC LSIOS",
  "MSANGCIEUC QSIOS CP CREK EMONY ES CVITU CX BHAD EA DINS DMILI GON EKO DN EG FE DP ETER",
  "DRACTER-18B00 O1 O2 O3 O4 O5 O6 O7 O8 O9 OA OB OC OD OE OF N10 O1 O2 O3 O4 O5 O6 O7 O8 O9 OA",
  "OB OC OD OE OF N20 O1 O2 O3 O4 O5 O6 O7 O8 O9 OA OB OC OD OE OF N30 O1 O2 O3 O4 O5 O6 O7 O8 O9",
  "OA OB OC OD OE OF N40 O1 O2 O3 O4 O5 O6 O7 O8 O9 OA OB OC OD OE OF N50 O1 O2 O3 O4 O5 O6 O7 O8",
  "O9 OA OB OC OD OE OF N60 O1 O2 O3 O4 O5 O6 O7 O8 O9 OA OB OC OD OE OF N70 O1 O2 O3 O4 O5 O6 O7",
  "O8 O9 OA OB OC OD OE OF N80 O1 O2 O3 O4 O5 O6 O7 O8 O9 OA OB OC OD OE OF N90 O1 O2 O3 O4 O5 O6",
  "O7 O8 O9 OA OB OC OD OE OF NA0 O1 O2 O3 O4 O5 O6 O7 O8 O9 OA OB OC OD OE OF NB0 O1 O2 O3 O4 O5",
  "O6 O7 O8 O9 OA OB OC OD OE OF NC0 O1 O2 O3 O4 O5 O6 O7 O8 O9 OA OB OC OD OE OF ND0 O1 O2 O3 O4",
  "O5 O6 O7 O8 O9 OA OB OC OD OE OF NE0 O1 O2 O3 O4 O5 O6 O7 O8 O9 OA OB OC OD OE OF NF0 O1 O2 O3",
  "O4 O5 O6 O7 O8 O9 OA OB OC OD OE OF MC00 O1 O2 O3 O4 O5 O6 O7 O8 O9 OA OB OC OD OE OF N10 O1",
  "O2 O3 O4 O5 O6 O7 O8 O9 OA OB OC OD OE OF N20 O1 O2 O3 O4 O5 O6 O7 O8 O9 OA OB OC OD OE OF N30",
  "O1 O2 O3 O4 O5 O6 O7 O8 O9 OA OB OC OD OE OF N40 O1 O2 O3 O4 O5 O6 O7 O8 O9 OA OB OC OD OE OF",
  "N50 O1 O2 O3 O4 O5 O6 O7 O8 O9 OA OB OC OD OE OF N60 O1 O2 O3 O4 O5 O6 O7 O8 O9 OA OB OC OD OE",
  "OF N70 O1 O2 O3 O4 O5 O6 O7 O8 O9 OA OB OC OD OE OF N80 O1 O2 O3 O4 O5 O6 O7 O8 O9 OA OB OC OD",
  "OE OF N90 O1 O2 O3 O4 O5 O6 O7 O8 O9 OA OB OC OD OE OF NA0 O1 O2 O3 O4 O5 O6 O7 O8 O9 OA OB OC",
  "OD OE OF NB0 O1 O2 O3 O4 O5 O6 O7 O8 O9 OA OB OC OD OE OF NC0 O1 O2 O3 O4 O5 O6 O7 O8 O9 OA OB",
  "OC OD OE OF ND0 O1 O2 O3 O4 O5 LB170 O1 O2 O3 O4 O5 O6 O7 O8 O9 OA OB OC OD OE OF N80 O1 O2 O3",
  "O4 O5 O6 O7 O8 O9 OA OB OC OD OE OF N90 O1 O2 O3 O4 O5 O6 O7 O8 O9 OA OB OC OD OE OF NA0 O1 O2",
  "O3 O4 O5 O6 O7 O8 O9 OA OB OC OD OE OF NB0 O1 O2 O3 O4 O5 O6 O7 O8 O9 OA OB OC OD OE OF NC0 O1",
  "O2 O3 O4 O5 O6 O7 O8 O9 OA OB OC OD OE OF ND0 O1 O2 O3 O4 O5 O6 O7 O8 O9 OA OB OC OD OE OF NE0",
  "O1 O2 O3 O4 O5 O6 O7 O8 O9 OA OB OC OD OE OF NF0 O1 O2 O3 O4 O5 O6 O7 O8 O9 OA OB OC OD OE OF",
  "M200 O1 O2 O3 O4 O5 O6 O7 O8 O9 OA OB OC OD OE OF N10 O1 O2 O3 O4 O5 O6 O7 O8 O9 OA OB OC OD",
  "OE OF N20 O1 O2 O3 O4 O5 O6 O7 O8 O9 OA OB OC OD OE OF N30 O1 O2 O3 O4 O5 O6 O7 O8 O9 OA OB OC",
  "OD OE OF N40 O1 O2 O3 O4 O5 O6 O7 O8 O9 OA OB OC OD OE OF N50 O1 O2 O3 O4 O5 O6 O7 O8 O9 OA OB",
  "OC OD OE OF N60 O1 O2 O3 O4 O5 O6 O7 O8 O9 OA OB OC OD OE OF N70 O1 O2 O3 O4 O5 O6 O7 O8 O9 OA",
  "OB OC OD OE OF N80 O1 O2 O3 O4 O5 O6 O7 O8 O9 OA OB OC OD OE OF N90 O1 O2 O3 O4 O5 O6 O7 O8 O9",
  "OA OB OC OD OE OF NA0 O1 O2 O3 O4 O5 O6 O7 O8 O9 OA OB OC OD OE OF NB0 O1 O2 O3 O4 O5 O6 O7 O8",
  "O9 OA OB OC OD OE OF NC0 O1 O2 O3 O4 O5 O6 O7 O8 O9 OA OB OC OD OE OF ND0 O1 O2 O3 O4 O5 O6 O7",
  "O8 O9 OA OB OC OD OE OF NE0 O1 O2 O3 O4 O5 O6 O7 O8 O9 OA OB OC OD OE OF NF0 O1 O2 O3 O4 O5 O6",
  "O7 O8 O9 OA OB DTTAWA DU DVIYANI DX CEEK EM ERING ESE DIKHAN GEI ENAP DLNU EYUSTKA DN DP",
  "DQUERED DRRIES FY EY DSTNUT DT DX CHA DIM CICKEN DEUCH-HIEUH IKHIEUKH DL EDREN DM EE DNG EOOK",
  "DPMUNK DRET EON DTUEUMCHIEUCH JIEUC ISIOS JSANGCIEUC NSIOS COA DCOLATE DE DKE DP ESTICKS",
  "DREVMA DT DX DY CRONOU DYSANTHEMUM CULA DO EP ET EX DP DR EX DX CWA DV CY DP DR EX DT DX BIE",
  "DP DT DUC-IEUNG GPIEUP GSSANGPIEUP DX CI CNEMA DNABAR CRCULATION FS CT DATION DYSCAPE CVILIAN",
  "CX BL CAIM DMSHELL DPPER FING DSSICAL DW CEAR EVER DF-1 F2 CIMACUS EBING DNGING EKING DPBOARD",
  "DVIS COSENESS FT EURE DVER DWN CUB-SPOKED DSTER BM001 E2 E4 E5 E6 E7 E8 E9 D10 E1 E2 FB E3 E5",
  "E7 E9 D21 E3 E4 E5 E6 E7 E8 E9 D30 E3 E4 E5 E6 E7 E8 E9 D40 E1 E4 E6 E7 E9 D50 E1 E2 E3 E4 E5",
  "E6 E8 E9 D60 E1 E2 E3 E4 E6 E7 E8 E9 D70 E1 E2 E3 E4 E5 FB E6 E8 E9 D80 E1 E2 E3 E4 E5 E6 E7",
  "E8 E9 D90 E1 E2 E4 E5 E6 E7 E8 E9 C100 E1 E2 E3 E4 E5 E7 E8 E9 D10 E2 E4 C301 E2 BOA DSTER DT",
  "CCKROACH ETAIL DONUT CDA CENG CFFIN CIN CLL EISION DOR DUMN CMB EINATION GED DET DING DMON",
  "DPARE FSS ELEMENT GTED FIANCE EONENT-001 M2 M3 M4 M5 M6 M7 M8 M9 L10 M1 M2 M3 M4 M5 M6 M7 M8",
  "M9 L20 M1 M2 M3 M4 M5 M6 M7 M8 M9 L30 M1 M2 M3 M4 M5 M6 M7 M8 M9 L40 M1 M2 M3 M4 M5 M6 M7 M8",
  "M9 L50 M1 M2 M3 M4 M5 M6 M7 M8 M9 L60 M1 M2 M3 M4 M5 M6 M7 M8 M9 L70 M1 M2 M3 M4 M5 M6 M7 M8",
  "M9 L80 M1 M2 M3 M4 M5 M6 M7 M8 M9 L90 M1 M2 M3 M4 M5 M6 M7 M8 M9 K100 M1 M2 M3 M4 M5 M6 M7 M8",
  "M9 L10 M1 M2 M3 M4 M5 M6 M7 M8 M9 L20 M1 M2 M3 M4 M5 M6 M7 M8 M9 L30 M1 M2 M3 M4 M5 M6 M7 M8",
  "M9 L40 M1 M2 M3 M4 M5 M6 M7 M8 M9 L50 M1 M2 M3 M4 M5 M6 M7 M8 M9 L60 M1 M2 M3 M4 M5 M6 M7 M8",
  "M9 L70 M1 M2 M3 M4 M5 M6 M7 M8 M9 L80 M1 M2 M3 M4 M5 M6 M7 M8 M9 L90 M1 M2 M3 M4 M5 M6 M7 M8",
  "M9 K200 M1 M2 M3 M4 M5 M6 M7 M8 M9 L10 M1 M2 M3 M4 M5 M6 M7 M8 M9 L20 M1 M2 M3 M4 M5 M6 M7 M8",
  "M9 L30 M1 M2 M3 M4 M5 M6 M7 M8 M9 L40 M1 M2 M3 M4 M5 M6 M7 M8 M9 L50 M1 M2 M3 M4 M5 M6 M7 M8",
  "M9 L60 M1 M2 M3 M4 M5 M6 M7 M8 M9 L70 M1 M2 M3 M4 M5 M6 M7 M8 M9 L80 M1 M2 M3 M4 M5 M6 M7 M8",
  "M9 L90 M1 M2 M3 M4 M5 M6 M7 M8 M9 K300 M1 M2 M3 M4 M5 M6 M7 M8 M9 L10 M1 M2 M3 M4 M5 M6 M7 M8",
  "M9 L20 M1 M2 M3 M4 M5 M6 M7 M8 M9 L30 M1 M2 M3 M4 M5 M6 M7 M8 M9 L40 M1 M2 M3 M4 M5 M6 M7 M8",
  "M9 L50 M1 M2 M3 M4 M5 M6 M7 M8 M9 L60 M1 M2 M3 M4 M5 M6 M7 M8 M9 L70 M1 M2 M3 M4 M5 M6 M7 M8",
  "M9 L80 M1 M2 M3 M4 M5 M6 M7 M8 M9 L90 M1 M2 M3 M4 M5 M6 M7 M8 M9 K400 M1 M2 M3 M4 M5 M6 M7 M8",
  "M9 L10 M1 M2 M3 M4 M5 M6 M7 M8 M9 L20 M1 M2 M3 M4 M5 M6 M7 M8 M9 L30 M1 M2 M3 M4 M5 M6 M7 M8",
  "M9 L40 M1 M2 M3 M4 M5 M6 M7 M8 M9 L50 M1 M2 M3 M4 M5 M6 M7 M8 M9 L60 M1 M2 M3 M4 M5 M6 M7 M8",
  "M9 L70 M1 M2 M3 M4 M5 M6 M7 M8 M9 L80 M1 M2 M3 M4 M5 M6 M7 M8 M9 L90 M1 M2 M3 M4 M5 M6 M7 M8",
  "M9 K500 M1 M2 M3 M4 M5 M6 M7 M8 M9 L10 M1 M2 M3 M4 M5 M6 M7 M8 M9 L20 M1 M2 M3 M4 M5 M6 M7 M8",
  "M9 L30 M1 M2 M3 M4 M5 M6 M7 M8 M9 L40 M1 M2 M3 M4 M5 M6 M7 M8 M9 L50 M1 M2 M3 M4 M5 M6 M7 M8",
  "M9 L60 M1 M2 M3 M4 M5 M6 M7 M8 M9 L70 M1 M2 M3 M4 M5 M6 M7 M8 M9 L80 M1 M2 M3 M4 M5 M6 M7 M8",
  "M9 L90 M1 M2 M3 M4 M5 M6 M7 M8 M9 K600 M1 M2 M3 M4 M5 M6 M7 M8 M9 L10 M1 M2 M3 M4 M5 M6 M7 M8",
  "M9 L20 M1 M2 M3 M4 M5 M6 M7 M8 M9 L30 M1 M2 M3 M4 M5 M6 M7 M8 M9 L40 M1 M2 M3 M4 M5 M6 M7 M8",
  "M9 L50 M1 M2 M3 M4 M5 M6 M7 M8 M9 L60 M1 M2 M3 M4 M5 M6 M7 M8 M9 L70 M1 M2 M3 M4 M5 M6 M7 M8",
  "M9 L80 M1 M2 M3 M4 M5 M6 M7 M8 M9 L90 M1 M2 M3 M4 M5 M6 M7 M8 M9 K700 M1 M2 M3 M4 M5 M6 M7 M8",
  "M9 L10 M1 M2 M3 M4 M5 M6 M7 M8 M9 L20 M1 M2 M3 M4 M5 M6 M7 M8 M9 L30 M1 M2 M3 M4 M5 M6 M7 M8",
  "M9 L40 M1 M2 M3 M4 M5 M6 M7 M8 M9 L50 M1 M2 M3 M4 M5 M6 M7 M8 M9 L60 M1 M2 M3 M4 M5 M6 M7 M8",
  "ERESSION EUTERS CNCAVE-POINTED DFETTI ELICT EOUNDED EUSED DGRUENT DICAL DJUGATE FNCTION",
  "DSTANCY DTEMPLATION FNTION EINUATION HING HOUS EOURED ERACTION GRIETY DVENIENCE COKED EIE FNG",
  "DL CP DPER-2 DY ELEFT CRAL DK DNISH DONIS DPORATION ESE DRECT FSPONDS CT CUCH DNTERBORE HSINK",
  "DPLE CWBOY CX BRAB DCKER DYON CEAM ETIVE DSCENDO CICKET COCODILE DISSANT EX DWN CUCIBLE I-2 J3",
  "J4 J5 FFORM DTCH DZEIRO CYSTAL BUAM CCUMBER CLTIVATION CO DX CPCAKE DIDO CR DLED EICUE FNG DRY",
  "DX CSTARD EOMER GS CX BWEORTH BYAW DY CCLONE CLINDRICITY CPERUS CR DENAIC DX CX AD001 D2 D3 D4",
  "D5 D6 D7 D8 EA D9 C10 D1 D2 D3 D4 D5 D6 D7 D8 D9 C20 D1 D2 D3 D4 D5 D6 D7 EA D8 D9 C30 D1 EA",
  "D2 D3 D4 EA D5 D6 D7 D8 D9 C40 D1 D2 D3 D4 D5 D6 EA D7 D8 EA D9 C50 EA EB EC ED EE EF EG EH EI",
  "D1 D2 EA D3 D4 EA D5 D6 D7 D8 D9 C60 D1 D2 D3 D4 D5 D6 D7 EA EB EC ED EE EF EG EH B2 BAADHU",
  "DLI DSU CEG DNG CG3 DALGA EZ DBASINNA DS CH DYAAUSH J-2 CI DNG DR CLAT DETH-RESH CM DARU DP",
  "CNCER EING DGO DTAYALAN CR DA3 E4 DGA DT CSEIA CTA CVID EYANI CWB CX CY-NIGHT BD CAP DT DX CEE",
  "DP DX CHE EE DI DU CIE EP EX DP DT DX COA DP DT DX CUO EP EX DP DRX DT DX CWA BEAD DF CBIT",
  "CCAYED DEMBER DIDUOUS ESIVENESS DORATION IVE DRESCENDO CEL DPLY CFECTIVENESS DINITION CHI CK",
  "DA CLETION DICIOUS EVERANCE HY DPHIC DT CMESTVENNY CNARIUS DG DNEN CP DARTMENT GURE DTH",
  "CRBITSA DELICT ET F-HIDET CSERT DI EGN DK ETOP CUNG CVELOPMENT CX DIA CYTEROS HU BH CAA ELU",
  "DDHE DL EATH EETH DMEDH DRMA CEE CHA DE EE DI DO EO DU CI DI COO DU CU BIAERESIS-RING IZED",
  "DMETER DRGON DTONON CB CEP DSEL DX CFAT DFERENCE EICULTIES JY DONIAS DTOGGOS CGITS DRAMMA HOS",
  "CL CMENSION JAL DIDIA ENISHMENT FUTION-1 L2 L3 DMING CNG CP DLOUN DPER DTE CRGA CSABLED",
  "EPPOINTED DCONTINUOUS DGUISED DIMOU DPERSION EUTED DSOLVE I-2 DTILL FNGUISH EORTION CT DTO",
  "CVERGENCE DIDERS GS ENG DORCE CX CYA CZZY BJ BL CE DE CHA DYA CI CO CU BNA BO-O CA CDO CING DT",
  "CKMAI CLIUM DLS DPHIN CMAIN CONG CP CROME DU CTS-1 G2 H3 I4 J5 K6 L7 M8 L8 K7 L8 K8 J6 K7 L8",
  "K8 J7 K8 J8 I5 J6 K7 L8 K8 J7 K8 J8 I6 J7 K8 J8 I7 J8 I8 H4 I5 J6 K7 L8 K8 J7 K8 J8 I6 J7 K8",
  "J8 I7 J8 I8 H5 I6 J7 K8 J8 I7 J8 I8 H6 I7 J8 I8 H7 I8 H8 G3 H4 I5 J6 K7 L8 K8 J7 K8 J8 I6 J7",
  "K8 J8 I7 J8 I8 H5 I6 J7 K8 J8 I7 J8 I8 H6 I7 J8 I8 H7 I8 H8 G4 H5 I6 J7 K8 J8 I7 J8 I8 H6 I7",
  "J8 I8 H7 I8 H8 G5 H6 I7 J8 I8 H7 I8 H8 G6 H7 I8 H8 G7 H8 G8 F2 G3 H4 I5 J6 K7 L8 K8 J7 K8 J8",
  "I6 J7 K8 J8 I7 J8 I8 H5 I6 J7 K8 J8 I7 J8 I8 H6 I7 J8 I8 H7 I8 H8 G4 H5 I6 J7 K8 J8 I7 J8 I8",
  "H6 I7 J8 I8 H7 I8 H8 G5 H6 I7 J8 I8 H7 I8 H8 G6 H7 I8 H8 G7 H8 G8 F3 G4 H5 I6 J7 K8 J8 I7 J8",
  "I8 H6 I7 J8 I8 H7 I8 H8 G5 H6 I7 J8 I8 H7 I8 H8 G6 H7 I8 H8 G7 H8 G8 F4 G5 H6 I7 J8 I8 H7 I8",
  "H8 G6 H7 I8 H8 G7 H8 G8 F5 G6 H7 I8 H8 G7 H8 G8 F6 G7 H8 G8 F7 G8 F8 DTED-L HN HP CUBLE-ENDED",
  "HLINED ET DGHNUT CWNSCALING CX BRAFTING CESS CIL DNK COMEDARY DOLING DP ELET ES CUMSTICKS BUB2",
  "CCK CDA CGUD CH CM DPLING CN4 CO DX CP DONDIUS CR D2 DATION DX CSHENNA DK CT DIES CX BVA CD",
  "CISVARA COECHELNOKRYZHEVAYA KPOVODNAYA ETOCHIE CUMYA BWA CO BYAN BZAA DY CHOI CITA CYAY DI CZA",
  "AE-2 C3 C4 C5 C6 CMAIL B001 D2 D3 D4 D5 D6 D7 D8 EA D9 EA C10 D1 D2 D3 D4 D5 D6 EA D7 EA D8 D9",
  "C20 EA D1 D2 D3 D4 D5 D6 D7 D8 EA D9 C30 D1 D2 D3 D4 EA D6 D7 D8 BABHADH CDHADH CMHANCHOLL",
  "CRLY DS DTHLY CSE BBEFILI BDD CIN DTORIAL BEBEEFILI CH CKAA CN CYANNA BGGS CIR BHWAZ",
  "BIGHT-THIRTY FIETH CS BJECT BKAM DRA CS DTREPTON BLAFRON CECTRICAL GONICS DVATOR GUS",
  "EEN-THIRTY CF CIF CT BMBELLISHMENT DLEM DROIDERY CPHATIC BNARMONIOS EXIS CCLOSURES DOUNTERS",
  "CDEAVOUR EP DOFONON CGINE CLARGEMENT CNI COS CQUIRY CTERING DHUSIASM DRY-1 G2 CUMERATION BO-EU",
  "DO DU CH CLHX BPEGERMA COCH BQ CUIANGULAR ED BREN CG CS BS-1 D2 D3 DTE CH16 D21 DE3 CO CS",
  "CTIMATED IS CUKUUDO BTERON CHEL CNAHTA BU-A DE EO EU DO DU CLER CRO-CURRENCY EPE-AFRICA GAN",
  "BVENING DRGREEN EY BXCELLENT ESS DHANGE DITEMENT CHALE EUSTION CIST FS CPLODING DONENT",
  "DRESSIONLESS CTINGUISHER DRA FTERRESTRIAL BYANNA CBEYFILI CEBROW DGLASSES CYY AF001 EA D2 D3",
  "D4 D5 D6 D7 D8 D9 C10 D1 D2 D3 EA D4 D5 D6 D7 D8 D9 C20 D1 EA D2 D3 D4 D5 D6 D7 D8 D9 C30 D1",
  "EA D2 D3 D4 D5 D6 D7 EA D8 EA D9 C40 D1 D2 D3 D4 D5 EA D6 EA D7 EA D8 D9 C50 D1 EA EB EC D2 D3",
  "BAAFU DI DMAE CCE-1 F2 F3 F4 F5 F6 DINGS DSIMILE DTORY CHRENHEIT CIB DHU DLURE DRY CJ CLAFEL",
  "DLEN CM CNG CP CQ CR CST CT DIGUE CYANNA BEAR EFUL EN CBRUARY CEM DNG CHU CLLOWSHIP CNCER COH",
  "CRRIS EY CSTIVAL CTH CUFEUAET DX BF CI CL BHTORA BIGHT DURE-1 H2 H3 CI CLLED FR-1 H2 DM",
  "CNGERNAILS DITE CP CRECRACKER EWORK IS DI CSHEYE EING DTED CT CVE-LINE FTHIRTY CX BL CA DG-1",
  "F2 F3 F4 F5 ES DME EINGO DSH DTBREAD ENESS CEUR-DE-LIS DXED EUS CIGHT DP COORPLANE DWERS EING",
  "CUSHED DTTERING BM BOG DGY CLDED DLY CN DDUE DGMAN DT COL DTBALL EPRINTS ESTOOL CP CRCE FS",
  "DKING DMATTING ES DTE EUNE CSTERING CUR-LINE FPER-EM FSTRING FTHIRTY BRAGMENT ERANT DMES DNC",
  "CEEZING DTBOARD CICATIVE DED ES CONT-FACING BUA CE DL DT CJI CLLNESS CNERAL CP CRX CSA DE CT",
  "CX BWE BY CA CP CT CX AG001 D2 D3 D4 D5 D6 EA D7 EA EB D8 D9 C10 D1 EA D2 D3 D4 D5 D6 D7 D8 D9",
  "C20 EA D1 D2 D3 D4 D5 D6 EA D7 D8 D9 C30 D1 D2 D3 D4 D5 D6 EA D7 EA D8 D9 C40 D1 D2 D3 EA D4",
  "D5 EA D6 D7 D8 D9 C50 D1 D2 D3 D4 B2 BAAFU DHLAA CDOL CG CI CLAM CM DAN DE DL EA CNDA DMA CR3",
  "DDEN DLIC DMENT DON CSHAN CT CUNTLET CX BB CAKURUNEN DYI CEN DT DUX CIEE CON BCAN BDAN BE22",
  "CBA DO CDE DOLA CEM CM DINATE FI CN DERAL FIC DIE EKI ETIVE DTLE COMETRIC CR DMAN CSTURE CT DA",
  "CX BG CAA DP DT DX CEE DP DT DX CIE EP EX DT DX COT DX CUOP ET EX DP DR EX DT DX CWA EA DE EE",
  "DI BH CAA EMAE DINU DMAL EMA DP DRAE DYN CEE DT DUAE GGHEUAE GRAE EGHEN HUAEM EN EX DYS CI",
  "DMEL COM DU CU CWA CZ BIBA DBOUS CDIM CE DP DT DX CFT CG DA CMEL-HETH CNII CP CRAFFE DL ES",
  "DUDAA CSAL CT CX BLA DSSES CEICH CISSANDO COVE FS DWING BN CAVIYANI BOA DT CBLIN CGGLES CING",
  "CK CLFER CNG CO DD CP CRA DGI EOSYNTHETON FTERI DILLA DT EHMIKON CX BPA BRADUAL GTION DF DIN",
  "DMMA DPES EHEME DTER DVE-ACUTE-GRAVE GMACRON FYARD CEATNESS DGORIAN CIMACING CONTHISMATA DWING",
  "BUA DN DRANI EDEDNESS FSMAN CEI CIDE DTAR CL CO DP DT DX CP CR7 DAMU GTON DUN ESH DX CT CX",
  "BVANG BW CAA CU BY CA DA DN CE DE CFU CI CO CU AH-TYPE B001 D2 D3 D4 D5 D6 EA D7 D8 BA-1 E0 E1",
  "D2 D3 D4 D5 D6 D7 D8 D9 DHA CAM DRU CDES CEGL CFUKH GA CGL EAZ CI DRCUT DS DTU CLBERD DF-1 F2",
  "DO DQA CM DBURGER DSA ETER CN-AKAT DDBAG GLL ELES ESHAKE DG CO CP DPY CRBAHAY DDNESS DMONIC",
  "CSER CTCHING DHI CUPTSTIMME CWJ CX CY DANNA BBASA-ESASA BC BDR BE-1 D2 D3 D4 D5 D6 D7 DGOAT",
  "CAD-BANDAGE EING EPHONE ESCARF DR-NO-EVIL EING ET-SHAPED DVENLY CDGEHOG CEI CIGHT DSEI",
  "CKUTAARU CLICOPTER EX DLSCHREIBER DM CMP CP CRAEUM DB DMES EITIAN DUTU CX DIFORM CYT BHE DE CI",
  "CO CU CWE EE DI CYA EA DE EE DI DO DU BI-1 D2 D3 D4 D5 D6 D7 DRES CBISCUS CDE ET DING",
  "CEUH-MIEUM GNIEUN GPIEUP GRIEUL GSIOS DX CGH-HEELED FLOW FSPEED CKING CNDU DGE CPPOPOTAMUS",
  "CSTORIC CYO CZB BK BL CAP DT DU DX CE DP DX CIE EP EX DP DT DX CO DP DX CU DO EP EX DP DR EX",
  "DT DX CY DP DR EX DT DX BM CA DP DT DX CE CI DE EP EX DP DT DX COP DT DX CU DO EP EX DP DR EX",
  "DT DX CY DP DR EX DX BNAP DT DU DX CE DP DX CI DE EP ET EX DP DT DX COP DT DX CUB DO EX DT",
  "BO-1 D2 D3 D4 D5 D6 D7 D8 CA CCHO DKEY CI CKA CLLOW DO CM CNEY FBEE CON DP DRU DU CP",
  "CRIZONTAL-00-00 P1 P2 P3 P4 P5 P6 M1-00 P1 P2 P3 P4 P5 P6 M2-00 P1 P2 P3 P4 P5 P6 M3-00 P1 P2",
  "P3 P4 P5 P6 M4-00 P1 P2 P3 P4 P5 P6 M5-00 P1 P2 P3 P4 P5 P6 M6-00 P1 P2 P3 P4 P5 P6 KLY DNS DR",
  "CSPITAL CTA DEL CX CY BPA CWG BRYVNIA BTTA BU-1 D2 D3 CAN DRADDO CB CGGING CIITO CK CL2 CNG CO",
  "DP DT DX CRAN CSH EED CT CVA BWA DH CEE CI CO CU BXA DP DT DX CE DP DX CI DE EP ET EX DP DX CO",
  "DT DX CUOP ET EX CWG BYGIEA FIA CPODIASTOLE CSTERESIS BZG CT CW DG CZ DP DZ EG AI-1 C2 C3 C4",
  "CA DRAEA CBEAM CEU CI CO D-I CU CYA E-O EE DE EO DO DU B001 D2 D3 D4 D5 EA D6 D7 D8 D9 EA C10",
  "EA D1 EA D2 D3 D4 D5 BANG BBIFILI BCELANDIC-YR CHADIN DIMATOS DOU BD CEOGRAPH-2F800 O1 O2 O3",
  "O4 O5 O6 O7 O8 O9 OA OB OC OD OE OF N10 O1 O2 O3 O4 O5 O6 O7 O8 O9 OA OB OC OD OE OF N20 O1 O2",
  "O3 O4 O5 O6 O7 O8 O9 OA OB OC OD OE OF N30 O1 O2 O3 O4 O5 O6 O7 O8 O9 OA OB OC OD OE OF N40 O1",
  "O2 O3 O4 O5 O6 O7 O8 O9 OA OB OC OD OE OF N50 O1 O2 O3 O4 O5 O6 O7 O8 O9 OA OB OC OD OE OF N60",
  "O1 O2 O3 O4 O5 O6 O7 O8 O9 OA OB OC OD OE OF N70 O1 O2 O3 O4 O5 O6 O7 O8 O9 OA OB OC OD OE OF",
  "N80 O1 O2 O3 O4 O5 O6 O7 O8 O9 OA OB OC OD OE OF N90 O1 O2 O3 O4 O5 O6 O7 O8 O9 OA OB OC OD OE",
  "OF NA0 O1 O2 O3 O4 O5 O6 O7 O8 O9 OA OB OC OD OE OF NB0 O1 O2 O3 O4 O5 O6 O7 O8 O9 OA OB OC OD",
  "OE OF NC0 O1 O2 O3 O4 O5 O6 O7 O8 O9 OA OB OC OD OE OF ND0 O1 O2 O3 O4 O5 O6 O7 O8 O9 OA OB OC",
  "OD OE OF NE0 O1 O2 O3 O4 O5 O6 O7 O8 O9 OA OB OC OD OE OF NF0 O1 O2 O3 O4 O5 O6 O7 O8 O9 OA OB",
  "OC OD OE OF M900 O1 O2 O3 O4 O5 O6 O7 O8 O9 OA OB OC OD OE OF N10 O1 O2 O3 O4 O5 O6 O7 O8 O9",
  "OA OB OC OD OE OF N20 O1 O2 O3 O4 O5 O6 O7 O8 O9 OA OB OC OD OE OF N30 O1 O2 O3 O4 O5 O6 O7 O8",
  "O9 OA OB OC OD OE OF N40 O1 O2 O3 O4 O5 O6 O7 O8 O9 OA OB OC OD OE OF N50 O1 O2 O3 O4 O5 O6 O7",
  "O8 O9 OA OB OC OD OE OF N60 O1 O2 O3 O4 O5 O6 O7 O8 O9 OA OB OC OD OE OF N70 O1 O2 O3 O4 O5 O6",
  "O7 O8 O9 OA OB OC OD OE OF N80 O1 O2 O3 O4 O5 O6 O7 O8 O9 OA OB OC OD OE OF N90 O1 O2 O3 O4 O5",
  "O6 O7 O8 O9 OA OB OC OD OE OF NA0 O1 O2 O3 O4 O5 O6 O7 O8 O9 OA OB OC OD OE OF NB0 O1 O2 O3 O4",
  "O5 O6 O7 O8 O9 OA OB OC OD OE OF NC0 O1 O2 O3 O4 O5 O6 O7 O8 O9 OA OB OC OD OE OF ND0 O1 O2 O3",
  "O4 O5 O6 O7 O8 O9 OA OB OC OD OE OF NE0 O1 O2 O3 O4 O5 O6 O7 O8 O9 OA OB OC OD OE OF NF0 O1 O2",
  "O3 O4 O5 O6 O7 O8 O9 OA OB OC OD OE OF MA00 O1 O2 O3 O4 O5 O6 O7 O8 O9 OA OB OC OD OE OF N10",
  "O1 O2 O3 O4 O5 O6 O7 O8 O9 OA OB OC OD K4E00 N9 M2D M8C MA4 K518D L21D M4D M72 MDD L3CC MF3",
  "L408 M39 L5B6 L8F0 L91A M29 LB57 M89 LDE6 LF8C K624B M53 M95 L307 M55 L557 M99 MB0 L620 L708",
  "N9 M2C LE80 LF14 K70B9 L121 L51F M33 L6D7 L981 LA7A LD42 K89E3 LCA9 LD70 K904A L14D KF900 N1",
  "N2 N3 N4 N5 N6 N7 N8 N9 NA NB NC ND NE NF M10 N1 N2 N3 N4 N5 N6 N7 N8 N9 NA NB NC ND NE NF M20",
  "N1 N2 N3 N4 N5 N6 N7 N8 N9 NA NB NC ND NE NF M30 N1 N2 N3 N4 N5 N6 N7 N8 N9 NA NB NC ND NE NF",
  "M40 N1 N2 N3 N4 N5 N6 N7 N8 N9 NA NB NC ND NE NF M50 N1 N2 N3 N4 N5 N6 N7 N8 N9 NA NB NC ND NE",
  "NF M60 N1 N2 N3 N4 N5 N6 N7 N8 N9 NA NB NC ND NE NF M70 N1 N2 N3 N4 N5 N6 N7 N8 N9 NA NB NC ND",
  "NE NF M80 N1 N2 N3 N4 N5 N6 N7 N8 N9 NA NB NC ND NE NF M90 N1 N2 N3 N4 N5 N6 N7 N8 N9 NA NB NC",
  "ND NE NF MA0 N1 N2 N3 N4 N5 N6 N7 N8 N9 NA NB NC ND NE NF MB0 N1 N2 N3 N4 N5 N6 N7 N8 N9 NA NB",
  "NC ND NE NF MC0 N1 N2 N3 N4 N5 N6 N7 N8 N9 NA NB NC ND NE NF MD0 N1 N2 N3 N4 N5 N6 N7 N8 N9 NA",
  "NB NC ND NE NF ME0 N1 N2 N3 N4 N5 N6 N7 N8 N9 NA NB NC ND NE NF MF0 N1 N2 N3 N4 N5 N6 N7 N8 N9",
  "NA NB NC ND NE NF LA00 N1 N2 N3 N4 N5 N6 N7 N8 N9 NA NB NC ND NE NF M10 N1 N2 N3 N4 N5 N6 N7",
  "N8 N9 NA NB NC ND NE NF M20 N1 N2 N3 N4 N5 N6 N7 N8 N9 NA NB NC ND NE NF M30 N1 N2 N3 N4 N5 N6",
  "N7 N8 N9 NA NB NC ND NE NF M40 N1 N2 N3 N4 N5 N6 N7 N8 N9 NA NB NC ND NE NF M50 N1 N2 N3 N4 N5",
  "N6 N7 N8 N9 NA NB NC ND NE NF M60 N1 N2 N3 N4 N5 N6 N7 N8 N9 NA NB NC ND M70 N1 N2 N3 N4 N5 N6",
  "N7 N8 N9 NA NB NC ND NE NF M80 N1 N2 N3 N4 N5 N6 N7 N8 N9 NA NB NC ND NE NF M90 N1 N2 N3 N4 N5",
  "N6 N7 N8 N9 NA NB NC ND NE NF MA0 N1 N2 N3 N4 N5 N6 N7 N8 N9 NA NB NC ND NE NF MB0 N1 N2 N3 N4",
  "N5 N6 N7 N8 N9 NA NB NC ND NE NF MC0 N1 N2 N3 N4 N5 N6 N7 N8 N9 NA NB NC ND NE NF MD0 N1 N2 N3",
  "N4 N5 N6 N7 N8 N9 CLE BEP CT CUNG-CHIEUCH HIEUC GHIEUH GKHIEUKH GMIEUM GPANSIOS HHIEUPH HIEUP",
  "GRIEUL GSIOS HSANGKIYEOK GTHIEUTH HIKEUT CX BF CIN BG CGWS BIYANNA BL C2 CIMMU G3 G4 CUT",
  "DUYANNA DY EANNA BMAALA CIDIARGON DFONON ETHORA ION DN3 DSEOS CN CP BN-ALAF CAP CBOX CCH",
  "DLUDING DOMING FPLETE DREASES FMENT CDIAN ECTION ERECT DUSTRIAL CFLUENCE CGWAZ CHALE CINGU CK",
  "CN DN DOCENCE CSECT CTERCALATE FEST FLOCKED FSYLLABIC DI CVERTEBRATE CY DA BODHADH CNG CR BP",
  "BRB CI CON-COPPER CUUYANNA DYANNA BSAKIA DZ CEN-ISEN CHMAAM CLAND CS BTEM CS BUJA BWAZ CN",
  "BYANNA BZ CAKAYA AJACK-O-LANTERN ES CH CIN CLL EAJALALOUHOU CNUARY CPAN CVIYANI CW CYIN DN",
  "BEANS CR DA EN DUSALEM CU BHAA DM DYIN CO DX BIA CE DP DT DX CGSAW CIM CP CT CX BJE DE CIEP ET",
  "EX DP DT DX COP DT DX CUO EP EX DP DR EX DX CYP DT DX BOA CINTS CNG CP CVE CX CYOUS DSTICK",
  "BUDEO-SPANISH DGE DUL CEUI CGGLING CLY CNE DO CO DP DT DX CP DITER CR DX CT CU CX BY CP CR DX",
  "CT CX AK001 D2 D3 D4 D5 D6 D7 D8 B2 BA-1 E0 E1 D2 D3 D4 D5 D6 D7 D8 D9 DKE CAB EA DCU DFU DI",
  "DN EKUU DV CB DA CCHKA CD D2 D4 CFA CIB DRI DV CKABAT CM D2 D4 CNAKO DGAROO DTAJA CPAL DO CQ",
  "CR DAN ETTO DOR FAN FII DSHANA CT DAVA GSMA DHISTI CUB DN EA DV CV CWB DI DV CX BB BCAL BE-1",
  "D2 D3 D4 D5 D6 CAAE CB CEB DNG DSU DV CFULA CLVIN CMBANG DPHRENG CNAT COW CP CRET CS DH2 CUAE",
  "FM FRI FTMEUN DKAQ EEUTNDA DM DOT DP EUQ DSEUX EHEUAEP DYEUX CV CX BHAB DF DMILO DN EDA DV CEE",
  "DTH CIT COMUT DN ENA DT DU CU DAT DDAM DEN-LUE CWAI CZ BI-1 D2 D3 D4 D5 D6 D7 D8 CAB DV CB CCK",
  "CE DEM DP DX CH CI DZH CLLER CMONO CNDERGARTEN DSHIP CQ CRO EGURAMU EMEETORU EWATTO CSAL DH",
  "CTE CV CW DIFRUIT CX CYEOK-CHIEUCH HHIEUH HKHIEUKH HNIEUN HPIEUP HRIEUL HSIOS-KIYEOK HTIKEUT",
  "BKE DE CI CO CU BL CA CITON CYUCH GENEPOSTOYANNAYA SY HPOVODNAYA NY HVOY BNEELING CIGHT-BISHOP",
  "HQUEEN HROOK COBS DT BO-1 D2 D3 DKI CA DLA CB DYLA CGHOM CH CINI CKE DO CMBU CNTEVMA COB DMUUT",
  "DPO DV CP CQNDON CRON DUNA CT CUFISMA CV DUU CX BP CAH DN DRAQ CEN DUX COQ BRA DTIMATA",
  "GOKOUFISMA HYPORROON CEMASTI CONOS CYUK DZHEVAYA BT BU-1 D2 D3 D4 D5 D6 D7 C4 C7 CA DB DV CB",
  "CET CFISMA CG CN DDDALIYA DG CO DM DQ DX CP DNAYA CQ CROONE DT DUNI EZEIRO DX CSMA CUH CV CX",
  "CZHI BV BWAET DY CB CM CU318 CV BXAA CE DE CI CO CU CWA EA DE EE DI BYAA DTHOS CE CI CLISMA CO",
  "CU DRII AL-TYPE B001 D2 EA D3 D4 D5 D6 EA D7 D8 B2 B3 B4 B6 BAAI DMU DN EAE CB DAT DEL",
  "DIALIZATION DOURING CCA DK DROSSE CDDER DY CEV CGU ES CH DSHU CJANYALAN CK-003 F20 G1 G5 F30",
  "F50 G1 F62 F79 F80 G1 F92 E130 F42 E210 G9 F20 G5 G8 F38 F65 G6 E343 G7 G8 F83 G4 F90 E441 F50",
  "G7 F70 F83 F90 G2 G3 G5 E550 E608 F36 F68 E724 F49 DHAN DKHANGYAO CMADH DBDA DD DP CND DGUAGE",
  "DTERN CPAQ CQ CRI DYNGEAL CT DE DIK CU DGHING DJ DKAZ CW CX CY DAR BCI BD C2 CAN BEAD EING DFY",
  "DNING CDGER CEK CFT-HANDED FLIGHTED FSIDE CGETOS DION DS CI CMOI EN CNGTH-1 H2 H3 H4 H5 H6 H7",
  "CO DPARD CP CSS CUAEM FP DM CVEL-2 G3 DITATING CX BHAG DVIYANI CE DE CII COO CU CYA BIABILITY",
  "CBERTY DRA CCKING CEE DP DT DX CFE DTER CGATING DHTHOUSE CI CL DITH DY CMBS DE DIT FATION FED",
  "DMU2 F4 CNE-1 F3 F7 F9 DGSA DKED EING CON CPSTICK CQ CS CT DRA DTER CVRE CX CZARD BLAMA CE CHA",
  "CL BM BN BOA CBSTER CCATION-FLOORPLANE JWALLPLANE GVE DOMOTIVE CDESTONE CG DR CLL EIPOP CM DKA",
  "DMAE CNG-BRANCH-AR MHAGALL MMADR MOSS MSOL MYR FLEGGED COK DN CP CRRAINE EY CS DSLESS CT DION",
  "CUDLY ESPEAKER DRE CW-MID EREVERSED-9 DERED CX BUAEP CB CGGAGE CHUR CIS CNGS FI CO DP DT DX CP",
  "CR DX CS CT CX BX BYA CGISMA CING DT CP CRX CT CX CY AM001 EA EB D2 D3 EA D4 D5 D6 D7 D8 D9",
  "C10 EA D1 D2 EA EB EC ED EE EF EG EH D3 D4 D5 EA D6 EA D7 EA D8 D9 C20 D1 D2 EA D3 D4 EA D5 D6",
  "D7 D8 EA D9 C30 D1 EA D2 D3 EA EB D4 D5 D6 D7 D8 D9 C40 EA D1 D2 D3 D4 D5 D6 D7 D8 D9 C50 D1",
  "D2 D3 D4 D5 D6 D7 D8 D9 C60 D1 D2 D3 D4 D5 D6 D7 D8 D9 C70 D1 D2 D3 D4 D5 D6 D7 D8 D9 C80 D1",
  "D2 D3 D4 D5 D6 D7 D8 D9 C90 D1 D2 D3 D4 D5 D6 D7 D8 D9 B100 D1 D2 D3 D4 D5 D6 D7 D8 D9 C10 D1",
  "D2 D3 D4 D5 D6 D7 D8 D9 C20 D1 D2 D3 D4 D5 D6 D7 D8 D9 C30 D1 D2 D3 D4 D5 D6 D7 D8 D9 C40 D1",
  "D2 D3 D4 D5 D6 D7 D8 D9 C50 D1 D2 D3 D4 D5 D6 D7 D8 D9 C60 D1 D2 D3 D4 D5 D6 D7 D8 D9 C70 D1",
  "D2 D3 D4 D5 D6 D7 D8 D9 C80 D1 D2 D3 D4 D5 D6 D7 D8 D9 C90 D1 D2 D3 D4 D5 D6 D7 BA-1 D2 D3 D4",
  "D5 D6 D7 C2 CAI DYYAA CCRON-ACUTE HBREVE HGRAVE CDU DYA CEKEUP DLEE DMBGBIEE EGBIEE EKPEN",
  "EVEUX DNJET EYI DSI CGE DIC DNET EIFYING CHAPAKH DHA CIDEN DKURO DMALAI EUAN DRU DTAIKHU",
  "DYAMOK DZE CLAKON DEERI DTESE CMMOTH CNACLES ET DDARIN DGALAM EO DNA FZ DS EUAE EYON DTELPIECE",
  "DUAL CO CPLE CQAF CRCASITE FTO H-STACCATO EH DE DK-4 ES DRATAN EIAGE EYING DTIAL DUKU DWARI DY",
  "CSCULINE DH2 EFAAT DORA DSAGE EING DU CT DE ERIALS DRIX DTOCK CU CX DIMA FIZE CYANNA BB2 C3 C4",
  "CAAKET ERAE DNYI DQ CEEKEET DRAE DUM ERI EX CIRIEEN CUAE FM DE DO EQ DU BC BD BE-1 D2 DMA",
  "CCHANICAL CD DICAL FINE CEJ DMU DTORU CGALI EPHONE ETON CIZI CLIK DODIC DTING CMBERSHIP DO",
  "CNDUT DOE ERAH DS CRI EDIANS DPERSON CSI DO DSENIAN CTA DEG EK DOBELUS DRETES EIA EO CUN",
  "EJOMNDEUQ DQ CX CZZO BFAA CEUAE EQ ET CIEE DYAQ CO BG CA DP DT DX CBASA GQ DE EE EN EUN DI EEE",
  "DO EFUM EO DU CE DP DX CIE EX COP DT DX CU DO EP EX DP DR EX DT DX BH CA CZ BI-1 D2 D3 D4 D5",
  "D6 D7 CCRO FBE FPHONE FSCOPE CE DE DP DUM-CHIEUCH HIEUC GHIEUH GNIEUN GPIEUP-SIOS GRIEUL",
  "GSSANGNIEUN LSIOS GTIKEUT DX CI DM DN CKRI EON DURON CL DK EY DL EET CME CNIBUS EDISC EMIZE",
  "ESTER DUS-OR-PLUS DY CP CRED DI EBAARU DROR CSRA CX BKPARAQ BL BNYAM BO-1 D2 D3 D4 D5 D6 CA",
  "CDE EL FS EM ERN ESTY DIFIER-10 K1 K2 K3 K4 K5 K6 J2 J3 J4 J5 J6 J7 J8 J9 DULO CHAMMAD",
  "CKHASSAS CL CNEY F-MOUTH DGKEUAEQ DI DOCLE EFONIAS EGRAMMOS ERAIL ESTABLE DSTER DTIEEN COMEUT",
  "EPUQ DSE-CREE CRNING DPHOLOGICAL DTUUM CSQUE FITO CT DOR FCYCLE FIZED FWAY CUNT FAINS CVE ED",
  "ES DIE CX CYAI BQ BR CACHNO HTIKHAYA GY BS BU-1 D2 D3 D4 DGAAHLAA CAE DS CE DN CGS CIN CKHA",
  "DKURUNI DPHRENG CLTI FOCULAR CM CN DAH DSUB CO DMAE DP DT DX CP CQDAM CR DE DGU2 DX CS DHROOM",
  "CT DHALIYA CUSIKATOAN DVUZHAKKU CX BVEUAENGAM CI COP BX BYP CT CX BZ AN-MU-MO-1 I2 B001 D2 D3",
  "D4 D5 D6 D7 D8 D9 C10 D1 D2 D3 D4 D5 D6 D7 D8 EA EB D9 C20 D1 D2 D3 D4 D5 EA D6 D7 D8 D9 C30",
  "D1 D2 D3 EA D4 EA D5 EA D6 D7 EA D8 D9 C40 D1 D2 BA-1 D3 D4 D5 D6 D7 D8 D9 C2 C4 CAI DKSIKYAYA",
  "CE CGAR CIL DRA CM D2 CN DA DD DGMONTHO DO DSANAQ COS CP CQ CU DD EIZ DSEATED DTHS CX DIAN CY",
  "CZAR BBA DP DT DX CI DEP EX DP DT DX CO DP DT DX CU DP DR EX DT DX CY DP DR EX DT DX BCA CHAU",
  "BD CAANGGEUAET DM DT DX CEP DUAEREE ET EX DX CIAQ DDA DE EX DP DQ DT DX COMBU DN DP DT DX CUN",
  "DP DR EX DT DX BE-1 D3 D4 D5 D6 DKO CBENSTIMME CCK ETIE CEDLE CGATION CL CMKA CNANO CP CRD",
  "CSSUS DT EING CTWORKED CUTER CWSPAPER CX DT BF BGAAI DH DI DN EGU DP DQ DT DX CEADAL DP DUREUT",
  "DX CG DAA FM GAE EP DEEEE FT EU FAE HT FX DUA FEN GSHAE EEET EM EOM FN FQ EP ERAE DWAEN CHA",
  "CIE EP EX DI CKAAMI EP EQ DEUAEM HQ FRI FX DIEE ENDI DUE FNZEUM EM EN EP DYEE COO DQ DT DX CU",
  "DAE FT EN DE DN DO ET EX CVE CYE BH CAY CJA CUE BI-1 D2 D3 D4 D5 D6 D7 DTE C2 CA CE DP",
  "DUN-CHIEUCH GPIEUP GRIEUL GTHIEUTH DX CGGAHITA DIDAESH GMIN CHSHVASA CKA EHIT DHAHIT CN9",
  "DE-THIRTY DJA DTH CON CP CRUGU CSAG CT DRE CX BJAA DM DP DQ CEEEE DUAEM GNA ET EX CIE EE EP ET",
  "EX DP DT DX COP DT DX CUEQ DO EX DP DQA DR EX DX CY DP DR EX DT DX BKA DARAE DU CINDI COM",
  "BL001 E2 E3 E4 E5 FA E6 E7 E8 E9 D10 E1 E2 E3 E4 E5 E6 E7 FA E8 E9 D20 CAU BM BNAA CE CG DA EA",
  "DI EI DO EO CHA CO CYA BO-1 D2 D3 D4 D5 CA CKHUK CMINAL ESMA CN D-BREAKING EJOINER EPOTABLE",
  "DFORKING CONU CP CRDIC DTHEAST-POINTING FWEST CTEBOOK DTO CVEMBER DILE CWC CX CY CZHKA BPA CLA",
  "BQA CIG BRAP DT DX CE DP DS DT DX CO DP DX CU DA DP DR EX DT DX CY DP DR EX DT DX BS CA CEN",
  "DUAEN CHAQ DEE DIEE DUE FT EOP CIEE FP FT COM CUM DN DOT BTA DA CEN DUNGBA CHAU CIEE COG DQPEN",
  "CSA EU CU DJ DM CXA DIV BU-1 D2 D3 C001 E2 E3 E4 E5 E6 E7 E8 E9 D10 FA E1 FA E2 E3 E4 E5 E6 E7",
  "E8 FA E9 D20 E1 E2 FA C11 CE CM DBERS DERO CNAVUT CO DP DX CP CR DX CTILLU CUN CX BW BY CAEMAE",
  "DH DJ DN CCA CD CEN CHA CIE EP ET EX DN E-DO DR DX CJA COA DN DO DT DX CUE DN DO EP EX DP DT",
  "DX CWA BZAP DQ DT DX CE DUM DX CI DE EP EX DP DT DX COP DX CU DN DO EX DQ DR EX DX CY DP DR EX",
  "DT DX AO-1 C2 C3 CE DO CO D-I CU CYA EE DE EO B001 EA D2 D3 D4 D5 EA D6 EA EB EC ED EE EF D7",
  "D8 D9 C10 EA EB EC D1 D2 D3 D4 D5 D6 D7 D8 D9 EA C20 EA D1 D2 D3 D4 EA D5 EA D6 D7 D8 D9 EA",
  "C30 EA D1 D2 D3 EA D4 D5 D6 EA EB EC ED D7 D8 D9 C40 D1 D2 D3 D4 D5 D6 D7 D8 D9 C50 EA EB D1",
  "BABOAFILI CK BB CELOS EUS CJECT CLACHKO EKO COFILI DL CSERVER DTRUCTION BC CCLUSION CHKOM",
  "CTAGONAL DOBER EPUS BDEN BER CY BFF DICER BG CRE BJEON BKTO BLE CIGON BMALON CET BN-OFF CAP",
  "CE-LINE EPIECE ETHIRTY EWAY DSELF CION CKAR CSU BOBOOFILI CH CMU CN CYANNA CZE BPEN-OUTLINED",
  "FP CHIUCHUS CPOSE DRESSION CTICAL EON BRANGUTAN CCHID CE-2 CIGIN CNAMENTS CTHODOX FGONAL BTHAL",
  "FAN DER FS CSECHKA CT DER BUNKIA CTBOX DLINE BVERHEATED BWL BXEIAI BYANNA CRANISMA CSTER BZ",
  "AP001 EA D2 D3 EA D4 D5 D6 D7 D8 D9 C10 D1 B2 BAAI DM DRAE FM DSENTO DTU CCKAGE EING CDDLE DMA",
  "CGER ES DODA CH CINTBRUSH DRTHRA DYANNOI CLATALIZATION JED DETTE DKA DLAS FWA DMS DUTA CMAAEH",
  "DENENG EPET DINGKAL DSHAE DUNGKAH CNAELAENG EM DCAKES DDA DEULEUNG DG EHULU EKAT FON ELAYAR",
  "FONG ERANGKEP EWISAD DOLONG ENGONAN DSIOS-KAPYEOUNPIEUP IPIEUP DYAKRA FNGGA EECEK EIKU EUKU CO",
  "CPERCLIP JS DYRUS CRACHUTE EGRAPHUS EKLIT DEREN DICHON DK DROT DTIALLY-RECYCLED DUM CSEQ DHAE",
  "ETA DSED FNGER EIMBANG FVE-PULL-DOWN-OUTPUT NUP-OUTPUT EPORT DUQ CT DAK DHAKKU FMASAT CUK DSE",
  "CVIYANI CX CY CZER BC BD BEACH EOCK DNUTS DR CDESTRIANS CEI DKING DM DP DSHI DZI CITH CLASTON",
  "CNETRATION DGKAL EUIN DIHI DNANT EY DSIVE EU DTATHLON COPLE DRTH CPPER CREVODKA DFORMING",
  "DMANENT DNIN DSEVERING EONAL EPECTIVE DTHO CS DETA DH2 CT DASMA FTI GOKOUFISMA DRI CUT EAE BF",
  "BG BH CAARKAA DB DM DN CEE CIEUPH-HIEUH ISIOS ITHIEUTH DLOSOPHERS DNTHU CNAEK COA DLUS DNES",
  "CRASE CU DNG DTHAO CWA BIANO DSMA ETRE EUTORU CCKET EUP CEEQ ET DP DT DUP-KHIEUKH GMIEUM",
  "GNIEUN GRIEUL L-PHIEUPH GSIOS-CIEUC LPIEUP LTHIEUTH HSANGSIOS DX CKO DURU CLE DL CN DARBORAS",
  "ETA DCHED FING DE EAPPLE CPAEMBA GGBIEE DING CR2 DACY DIEEN CSCES DTOL CX CZZA EICATO BLACARD",
  "DGIOS DK DNET ET DTE DYGROUND CEADING DTHRON CHAU COW CUG DK DM EED DNGER DRAL DS-MINUS DTA BM",
  "BOA CCKET CDATUS DCHASHIEM DVERTKA CETIC CINTO FS CKRYTIE CLI DKULIZMY DNAYA DO DUPOVODNAYA",
  "CNDO CODLE DN CPCORN DPER EING CRRECTUS DTABLE CSEIDON DITIONS DTBOX EPOSITION CTABLE ETO DTED",
  "CUCH DLTRY DRING CVODNY CWDER GED CX CY BPA CM CV BR CAYER CECEDED EIPITATE DFACE DNKHA",
  "DSCRIPTION EENT ESED DTZEL DVIOUS CINCE GSS ETER FS DVATE COBING DFOUND DGRESS DHIBITED",
  "DJECTION IVE HOR DOF DPERTY EORTIONAL DSERPINA DTOS FVARYS DVE BS CIFISTOLYGISMA IN",
  "IPARAKALESMA ISYNAGMA DLON BTE BU2 CAQ CB DLIC CCK CFFED CM DP CNCTUS DG EAAM CO DP DX CQ CR",
  "DIFY ETY DNAMA DSE DX CSHING EPIKA CTNAYA DREFACTION CUT CX CZZLE BV BW COY BY CP CR DX CX BZ",
  "AQ001 D2 D3 D4 D5 D6 D7 BAAFU DI CDMA CIRTHRA CLA CPH CQ CRNEY CU CY BEE CTANA BGA BHA DA DU",
  "CE DE CI CO DPH CU CWA EA DE EE DI BIE DP DT DX CF CP CT CX BN BOA CP DA CX BP BUADCOLON",
  "DNTITY DTERNION CBUTS CDDISA CESTIONED CF CICK DNARIUS ECUNX EDICESIMA ETESSENCE FILE CK COP",
  "DT DX CP CR DX CSHSHAYA CT CUV CX BWA DA BY CA DA CE DE CI CO CP CR DX CT CU CX AR001 D2 EA D3",
  "EA EB D4 D5 D6 D7 D8 D9 C10 EA D1 D2 D3 D4 D5 D6 EA D7 D8 D9 C20 D1 D2 D3 D4 D5 D6 D7 D8 D9",
  "BA-1 D3 D4 DKARA C2 C3 CAI CB DBIT CCCOON DQUET CDIO FACTIVE CEM CH DIMAHU IM DMATULLAH CI DDA",
  "EO DL DNBOW DSING CKHANG CMBAT CN CPISMA CQ CSHA DOUL DWADI CTA DIO CU CVNO CX CYANNA CZOR",
  "DSEKA BE-1 D2 D3 D4 CADING DHMUK DLGAR H-2 CCEIPT EPTIVE DITATIVE DORDER GING DREATIONAL",
  "DYCLED CFERENCE CGIA F-2 ESTERED DULUS-2 I3 I4 CI DD DWA CLAA ETIONAL EXED DEASE DIEVED EGION",
  "CMEDY DINDER DU CNTOGEN CP DH EA DRESENT CREKAN CSH-AYIN J-DALETH DIDENCE ESTANCE DOLUTION",
  "DTROOM DUPINUS CTORT DREAT CU CVERSED-SCHWA DIA DMA DOLUTION FVING CX BH CINOCEROS COTIC BI-1",
  "D2 D3 D4 D5 D6 D7 CAL CCEM DKSHAW CEL DUL-CIEUC GKIYEOK-HIEUH GMIEUM-HIEUH MKIYEOK MSIOS",
  "GPIEUP-HIEUH MPHIEUPH MTIKEUT GSSANGPIEUP LSIOS LTIKEUT GTIKEUT-HIEUH GYEORINHIEUH-HIEUH",
  "ISIEUNG CFLE CGHT-HANDED GLIGHTED GSIDE FHAND DVEDIC CM DGBA CN DFORZANDO DGED EING CP DPLE",
  "CRA CTTORU DUAL CVER BJES BMT BO-1 D2 D3 D4 D5 D6 C2 CA DR DSTED CBAT DOT CGOM CLL EED-UP FR",
  "EING CM DANIAN COF DM DSTER CP CSE DH CT DATIONS CUND-TIPPED CWBOAT CX BRAX CEP DT DX COP DT",
  "DX CRA CU DO EX DP DR EX DT DX CY DP DR EX DT DX BTE CHANG BU-1 D2 D3 D4 D5 D6 CA CBLE CE CGBY",
  "CIS CKKAKHA CLAI DE E-DELAYED ER CN DNER DOUT CO DP DX CP DII CR DX CSI CT CUBURU CX BWAHA CE",
  "DE CI DI CO DO BYA CP CR DX CT CX CY AS-W B001 D2 EA D3 D4 D5 D6 EA D7 D8 D9 C10 D1 D2 D3 D4",
  "EA EB D5 D6 D7 EA D8 D9 C20 D1 D2 D3 D4 D5 D6 EA EB D7 D8 D9 C30 D1 D2 D3 D4 D5 EA D6 D7 D8 D9",
  "C40 D1 D2 D3 D4 D5 D6 BA-1 D3 D4 D5 D6 D7 D8 DI CADHU DI CCRIFICIAL CGA DITTARIUS CIKURU DL",
  "EBOAT CJDAH CKE EUAE DHA DIN DOT DTA CL-AMMONIAC DA EAMUHU ED EM DLALLAAHU IHU DT-2 DUTING",
  "CMKA DPHAO DVAT DYOK CNAH DD EAL EWICH DGA2 DNYA DTIIMU DYOOGA CPA CQ CSH CTCHEL DELLITE DKAAN",
  "HKUU DURN CUCER DIL DROPOD CVOURING CWAN CX DIMATA DOPHONE BBRUL CUB BCALES DNDICUS DRF CEPTER",
  "CHOLAR DROEDER COOTER DRE EPION GUS CREAMING EWDRIVER DOLL DUPLE CWA BD CONG BE-1 D2 D3 D4 D5",
  "CAGULL DT CCRET DTOR CDNA CE-NO-EVIL DDLING DNU DV CGNO CISMA CLECTOR-1 K0 L0 L1 L2 L3 L4 L5",
  "L6 L7 L8 L9 K1 L0 L1 L2 L3 L4 L5 L6 L7 L8 L9 K2 L0 L1 L2 L3 L4 L5 L6 L7 L8 L9 K3 L0 L1 L2 L3",
  "L4 L5 L6 L7 L8 L9 K4 L0 L1 L2 L3 L4 L5 L6 L7 L8 L9 K5 L0 L1 L2 L3 L4 L5 L6 L7 L8 L9 K6 L0 L1",
  "L2 L3 L4 L5 L6 L7 L8 L9 K7 L0 L1 L2 L3 L4 L5 L6 L7 L8 L9 K8 L0 L1 L2 L3 L4 L5 L6 L7 L8 L9 K9",
  "L0 L1 L2 L3 L4 L5 L6 L7 L8 L9 J2 K0 L0 L1 L2 L3 L4 L5 L6 L7 L8 L9 K1 L0 L1 L2 L3 L4 L5 L6 L7",
  "L8 L9 K2 L0 L1 L2 L3 L4 L5 L6 L7 L8 L9 K3 L0 L1 L2 L3 L4 L5 L6 L7 L8 L9 K4 L0 L1 L2 L3 L4 L5",
  "L6 L7 L8 L9 K5 L0 L1 L2 L3 L4 L5 L6 K6 K7 K8 K9 J3 K0 K1 K2 K3 K4 K5 K6 K7 K8 K9 J4 K0 K1 K2",
  "K3 K4 K5 K6 K7 K8 K9 J5 K0 K1 K2 K3 K4 K5 K6 K7 K8 K9 J6 K0 K1 K2 K3 K4 K5 K6 K7 K8 K9 J7 K0",
  "K1 K2 K3 K4 K5 K6 K7 K8 K9 J8 K0 K1 K2 K3 K4 K5 K6 K7 K8 K9 J9 K0 K1 K2 K3 K4 K5 K6 K7 K8 K9",
  "ENA DFIE CMISEXTILE DK DUNCIA CNTAGON EI EO CP DARATED DTEMBER EUPLE CRIOUS DVICE",
  "CSQUIQUADRATE DTERTIUS CTFON CUAEQ DNYAM CVEN-THIRTY FTH ERANCE CWING CX DTANS GT-1 J2 K3 L4",
  "M5 M6 L5 M6 L6 K4 L5 M6 L6 K5 L6 K6 J3 K4 L5 M6 L6 K56 K6 J4 K5 L6 K6 J5 K6 J6 I2 J3 K4 L5 M6",
  "L6 K5 L6 K6 J4 K5 L6 J5 K6 J6 I3 J4 K5 L6 K6 J5 K6 J6 I4 J5 K6 J6 I5 J6 I6 EILE CYK BG COR CRA",
  "BH2 CA6 DB6 DK EER ETI DLLOW ESHELET DMROCK DP EE DRA EK DVED EIYANI DX DY CCHOOI CE-GOAT DENU",
  "DG9 DN DP DQEL DSH2 FLAM DUAE GQ HTU EOQ DVA DX CIIN DNDA EIG ETO DQ DRAE ET DYYAALAA COA",
  "DCKED DES DOI ET FING DPPING DRT-TWIG-AR LBJARKAN LHAGALL LMADR LNAUD LOSS LSOL LTYR LYR FCAKE",
  "FENER DT DU ELDERED DWER DX CRA EA DI EI EMP ENE DO EO DUG CUANGXI DBUR DENSHUET EQ DFFLE DL",
  "DM DO EP EX DP DRX DT ETLECOCK DX CV CWOY CYA DE DP DR EX DT DX BI-1 D2 D3 D4 D5 D6 CA CCKLE",
  "ENESS CDDHI CE DE DP DX CG DEL CK2 DI CLA3 DIQUA DVER CMULTANEOUS CNE DGAAT DKING DNYIIYHE",
  "DOLOGICAL DUSOID COS-IEUNG FKAPYEOUNPIEUP GHIEUKH FPANSIOS GHIEUPH GIEUP-KIYEOK FSSANGSIOS CP",
  "CRINGU DRAH CSA CT DE CX-LINE EPER-EM ESTRING ETHIRTY DTEENTH-1 K2 EY-FOURTHS CZE BK CATEBOARD",
  "CI DER DN COBA CUNK CW DA BLAVE EONIC CED DEP FY DUTH CIDE FR EING DNG COPE DT EH DWLY CUR",
  "BMEAR CIRKING COKING BNA DIL DP CEEZING COWBOARDER BO-1 D2 D3 D4 D5 D6 D7 CA DP CCCER DKS",
  "CFTBALL ENESS EWARE-FUNCTION CLDIER DID CN DG DJAM CON CP CQ CRI DOCHYA CS CUNAP CW DILO CX CY",
  "BP CA DGHETTI DRKLER HS GING DTHI CE DAK-NO-EVIL FING DEDBOAT DNT DSMILO CI DCE DDER DNE DRANT",
  "CLASHING EYED DITTING CO DNGE DOL DRTS DT DUTING CRECHGESANG DING GS DOUT CUNGS CWA CY",
  "BQUEEZED DID ESH BR CEDNE BSAA DNGARAEA FCIEUC-HIEUH FMIEUM FRIEUL-KHIEUKH FSIOS-KIYEOK KPIEUP",
  "KTIKEUT FTHIEUTH GIKEUT-PIEUP FYEORINHIEUH DP DT DX CEE DP DX CHE DIN CIE EP EX DP DT DX COP",
  "DT DX CUP DT DU DX CY DP DR EX DT DX BT2 CACCATISSIMO HO EKED DDIUM DLLION DMPED DN ED FING",
  "FSTILL DRK ERED ES ETING DTION EUE DUROS DVROS GU CEAMING FY DNOGRAPHIC DREO DTHOSCOPE CICKING",
  "DLL DMME DRRUP COPPAGE FING EWATCH DRE DVE CRAGGISMATA EIF FGHTNESS FNER ETIAN FUM-2 EW FBERRY",
  "DEAMER ENGTH ETCH DICTLY EDE EKETHROUGH EPE DOKE-1 I0 I1 H2 H3 H4 H5 H6 H7 H8 H9 CUDIO DFFED",
  "DPA CWA BU-1 D2 D3 D4 D5 D6 D7 D8 CAB DE EN ET DM CBHAANAHU DITO DJECT EOINER DLIMATE-2 K3",
  "IION DPUNCTIS CCK EED EING CD D2 CE CHUR CITABLE CMASH DMER CNFLOWER DGLASSES DRISE DSET CO DP",
  "DX CP DER FFIXED FHERO FIMPOSED FVILLAIN CR9 DE DFER DX DYA CSHI CT DRA CX BVETLO FY BWAN CG",
  "CIMMER FING ESUIT CORD FS CUNG CZ BY CA CI CMBOL-1 I0 I1 I2 I3 I4 I5 I6 I7 I8 I9 H2 I0 I1 I2",
  "I3 I4 I5 I6 I7 I9 H3 I0 I2 I6 I7 I8 I9 H4 I0 I2 I3 I5 I7 I8 I9 H5 I0 I1 I2 I3 I4 H6 H7 H8 H9",
  "DMETRY CNAFI EGOGUE DCHRONOUS DDESMOS DEVMA COUWA CP CR DINGE DMA FTIKI DX CT CX BZ CA DA CE",
  "DE CI CO CU CWA DG CZ AT-REX CSHIRT B001 D2 D3 EA D4 D5 D6 D7 EA D8 EA D9 EA C10 D1 EA D2 D3",
  "D4 D5 D6 EA D7 D8 D9 C20 D1 D2 D3 D4 D5 D6 D7 D8 D9 C30 D1 D2 EA D3 EA D4 D5 D6 BA-1 D3 D4 C2",
  "CAALAA DF DI DM DQ DSHAE CBAARAKA DS CCO CEN CHALA CILLESS DSYOU CK DE EOUT DHALLUS CLENT",
  "CMALE EN CNA EBATA DG EENT FRINE CO CP DER CQ CRTAR G-2 DUNG CS DHEEL DSI CTTOOED CUM DRUS",
  "CVIYANI CWA DELLEMET CX DI CY BE-1 D3 D4 D5 D6 D7 D8 D9 DU CA DCUP DPOT DR E-OFF EDROP-BARBED",
  "JSHANKED CDDY CEEE DNS CGEH CIWS CK CLESCOPE EVISION DLER DOUS DU CMPLE CN-THIRTY DGE DNIS",
  "DUTO CP CRMINAL HTOR CSSARON DT CTARTIMORION DRAFONIAS FPLI FSIMOU CU DAEN FQ DN DT EEUWEN GX",
  "CVIR CX BHAALU DHAN DJ DMEDH DNNA ETHAKHAT DW CEA DMA FTISMOS DREFORE EMODYNAMIC GMETER DS DTH",
  "DY CIAB DCK DGH DNG EKING DRD-STAGE ETY-ONE DTA DUTH COA DJ DM DU CREE-CIRCLE GDOT GEM",
  "GHUNDRED-AND-TWENTIETH GLEGGED HINE GPER-EM GQUARTER GTHIRTY DOWING CUNDERSTORM EG DRISAZ ES",
  "CWE EE DI EI DO EO CYOOM CZ BI-1 D2 D3 D4 D5 D6 D7 C2 CARA CCKET GS CEP DX CGHTLY-CLOSED CI",
  "CKEUT-CHIEUCH HMIEUM HSIOS-KIYEOK HTHIEUTH DHY CLES DT CMER CN DAGMA DCTURE DG DNE CPEHA DPI",
  "CRED DTA DYAK CTA DUAEP CWAZ DR CX BLEE CHEE DOO DU DWE DYA BN BO-1 D2 D3 D4 D5 D6 DRA CA",
  "DNDAKHIAT CCHKA CILET CKYO CLONG CMATO DPI CN DE-B FD FG FJ FM FS FV DG COLBOX DN DTHBRUSH CQ",
  "CRCH EULUS DNADO DSO F-FLOORPLANE GWALLPLANE CS CUCHES FING FTONE DRNOIS CV CWER CX BR",
  "CACKBALL ETOR DDE EITIONAL DILING DM EWAY DNSPLUTO FVERSAL DP EEZIUM DY CEADING DDECILE",
  "DMOLO-1 I2 I3 DSVETLO IY CI DA ENGLE-ROUND DFOLIATE FNIAS DGORGON ERAMMOS DISAP DLL FIONS DON",
  "DPLI EOD DSIMOU DTIMORION EOS DUMPH COLL FEY HBUS DMIKOLYGISMA HPARAKALESMA ISIFISTON HSYNAGMA",
  "DPHY EICAL CUMP-1 H0 H1 H2 H3 H4 H5 H6 H7 H8 H9 G2 H0 H1 G3 G4 G5 G6 G7 G8 G9 FET DNCATED DTH",
  "CYASKA FOGLASNAYA GPOVODNAYA GSTRELNAYA DBLION BSAA EDIY DB CEEB DRE CHAB DEEJ DOOJ DUGS CIU",
  "COV CSA CWA DB BT2 CEE CH DEE DOO DU DWE CSA DE EE DI DO DU CTHA CU DDDAG BU-1 D2 D3 D4 DTO",
  "CAE EP CB DE CGRIK CKWENTIS CLIP CMAE DBLER DETES CNNY CO DP DX CPNI CRKEY EISH DO2 DU DX CT",
  "DEYASAT DTY CUMU CX DEDO BVIMADUR BWELFTH EVE-THIRTY DNTY-EIGHT MH HNINE HSEVEN IIX CISTED",
  "FING CO-EM ELINE ETHIRTY BXA CHEEJ CWV BYA DY CE CI CO CPE-1 G-2 F2 F7 CR BZA DA CE DE CI DR",
  "CO DA CU AU-1 C2 C3 C4 C5 CA DE CEO-EU CI-I CU CYE EO B001 D2 D3 D4 D5 D6 EA EB D7 D8 D9 C10",
  "D1 D2 D3 D4 D5 D6 D7 D8 D9 C20 D1 D2 D3 EA D4 D5 D6 D7 D8 D9 EA C30 D1 D2 EA D3 D4 D5 D6 D7 D8",
  "D9 C40 D1 D2 BAN DG CTH BB CHAYATO CUFILI BDAAT DRKA CUG BEA CC CE CI CN CQ CX CY CZ BHD BIC",
  "CLLEANN CQ CUC DQ DX DZ CX CZ BMBIN BNA DMUSED DP DSPIRATED CBLENDED CCERTAINTY DIA CDERDOT DO",
  "CEVEN CG CICORN DFORM DTED EY CKNOWN CMARRIED BOG CN CP CX BPRIGHT CSIDE-DOWN BQ BR4 CA CI D3",
  "DNE CN CUS DZ BSE CH2 DENNA DUMX DX CSU E3 BTUKI BUU D2 D3 DU CYANNA BWU BX BYANNA BZ C3",
  "CHAKKU CU AV001 EA EB EC ED EE EF EG EH EI D2 EA D3 D4 D5 D6 D7 EA EB D8 D9 C10 D1 EA EB EC D2",
  "EA EB D3 D4 D5 D6 D7 D8 D9 C20 EA EB EC ED EE EF EG EH EI EJ EK EL D1 D2 D3 EA D4 D5 D6 D7 D8",
  "EA D9 EA C30 EA D1 EA D2 D3 EA D4 D5 D6 D7 EA D8 D9 C40 EA BAAVU CJ CKAIYARAA CLLEY CMPIRE CP",
  "DOURS CRAAKAN DEIAI DIKA DYS CSIS DTNESS CT DHY CU CX CYANNA BC BECTOR CHICLE CIL CLI CR",
  "DDIGRIS DGE DSICLE DTICAL-00-00 N1 N2 N3 N4 N5 N6 K1-00 N1 N2 N3 N4 N5 N6 K2-00 N1 N2 N3 N4 N5",
  "N6 K3-00 N1 N2 N3 N4 N5 N6 K4-00 N1 N2 N3 N4 N5 N6 K5-00 N1 N2 N3 N4 N5 N6 K6-00 N1 N2 N3 N4",
  "N5 N6 CST EA CUAE FPEN DM DX CX CYZ BFA BHA BIBRATION CDEO FCASSETTE DJ E-2 CE DP DTNAMESE",
  "DWDATA EER EING DX CGINTILE CLLAGE CNEGAR H-2 I3 COLIN CP CRGA EO DIAM CSARGAYA CT DAE F-2",
  "DRIOL H-2 CX CYO BOCALIZATION CD CICELESS DD EED CLCANO DLEYBALL DTAGE DUME CM DITING COI CP",
  "CT CU CW DEL-CARRIER CX BQ BS BUEQ CLCANUS CP CRX CT CX BW CA CJ BX BYP CR DX CT CX BZ CMET",
  "AW001 D2 D3 EA D4 D5 D6 D7 D8 D9 EA C10 EA D1 D2 D3 D4 EA D5 D6 D7 EA D8 EA D9 C20 D1 D2 D3 D4",
  "EA D5 BA-1 D2 D3 D4 D5 DAALIH DSALLAM DTAAALAA CAALIHEE DJIB DVU CDDA CEN CFFLE CI DST",
  "CLLPLANE CN DD EERER DGKUOQ DING CQFA CRNING CS-SALAAM DSALLAM DTEBASKET EING CT DERMELON DTO",
  "CXING BB BC BE-1 D2 D3 D4 CAPON DRY CB CDDING DGE CEN CI CLL CN CP CT CUX CX BG BH CALE CEELED",
  "CITE-FEATHERED BI-1 D2 D3 D4 D5 CANG FWAAK CDENING CGGLES DNYAN CLTED CN DDOW DGS DJA DK EING",
  "DTER CRED BO-1 D2 D3 D4 D5 D6 D7 CA CE CLF CMEN FS CON CP CRDSPACE DKER DLD DM DRIED DSHIP CW",
  "CX BRAP EPED CEATH DNCH DSTLERS CONG CY BUAEN ET CI CN DJO COP DX CP BVA CE CI BZ AX-RAY CX",
  "B001 D2 D3 D4 EA EB D5 D6 EA D7 D8 EA BAA CPH CU DS BEE CSTES CYN BG BHEYN BIAB CE DP DT DX CP",
  "CRON CT CX BOA CP DH CR CT CX BSHAAYATHIYA BU CO DX BVE BWA DA CE DE CI BY CAA CEE CI CO DO EJ",
  "CP CR DX CT CU CX AY001 EA D2 D3 D4 D5 D6 D7 D8 BA-1 D2 D3 D4 D5 DO DU CADO DI DRU CB DH CCH",
  "CD DD EH DH CEMMAE CF DU CG DHH DN CHH CKASH DHH CL CMAKKAN DOK CRN DR CS DH DS CTH DT CU CV",
  "CW DN EING CYANNA DD CZZ BEA CEG CIN CNAP CO-O EU EYA CRAH CSIEUNG-HIEUH JMIEUM CTIV CUAE FT",
  "DM DQ DRAE DX CW CY BFEN BHA CE BI-U CEE DP DT DX CH CI CNG CP CX CZET BO-1 D2 D3 D4 D5 D6 DA",
  "EE DEO DO DYEO EO CA CMO CP CRI CU DTHFUL INESS CWD CX CY BPOKRISIS DRROI CSILI BRY BU-1 D2 D3",
  "D4 DA EE DE EO DO DU CAEN DN CE DQ CI CJ CM CN CO DM DT DX CP CR DX CUKALEAPINTU CWOQ CX BYAA",
  "CE CP CR DX CT CX AZ001 D2 EA EB EC ED D3 EA EB D4 EA D5 EA D6 D7 D8 D9 C10 D1 D2 D3 D4 D5 EA",
  "EB EC ED EE EF EG EH EI D6 EA EB EC ED EE EF EG EH BA7 CDERZHKA CEF CG CI CKRYTAYA GOE CMX",
  "CNOZHEK CP DYATYMI CRL DQA CT CVIYANI CX CYIN-YODH BE2 CBRA CLO CP CUS CVOK CX BH CAA DIN DP",
  "DT DX DYIN CEP DT DX CIL COI DO DP DT DX CUO EP EX DP DR EX DT DX CWA CY DP DR EX DT DX BI3 CB",
  "CDA CE DP DX CG CLDE CNOR CP DPER-MOUTH CQAA CT CX CZ2 BMEYTSA BOA CMBIE CP CX BRA BSA CHA",
  "BUBUR CM CO DP DX CRX CT CX BWA DRAKAY CJ BYGOS CP CR DX CT CX BZAA DP DT DX CEE DP DX CIE EP",
  "EX DP DT DX COP DX CSA DYA CUP DR EX DX CY DA DP DR EX DT DX"]

end VoiceDebugger.Text
