import DiffBudget.Unicode.Runs

/-!
# Scripts

The script of every code point, and the names of the scripts in lower case without underscores.
A character may be used in further scripts; for each script the last table gives the characters
whose membership differs when these are counted.
-/
namespace DiffBudget.Unicode

def scriptTable : Text := "
Zyyy65 Latn26 Zyyy6 Latn26 Zyyy47 Latn Zyyy15 Latn Zyyy5 Latn23 Zyyy Latn31 Zyyy Latn449 Zyyy39
Latn5 Zyyy5 Bopo2 Zyyy20 Zinh112 Grek4 Zyyy Grek3 Zzzz2 Grek4 Zyyy Grek Zzzz4 Grek Zyyy Grek
Zyyy Grek3 Zzzz Grek Zzzz Grek20 Zzzz Grek63 Copt14 Grek16 Cyrl133 Zinh2 Cyrl169 Zzzz Armn38
Zzzz2 Armn50 Zzzz2 Armn3 Zzzz Hebr55 Zzzz8 Hebr27 Zzzz4 Hebr6 Zzzz11 Arab5 Zyyy Arab6 Zyyy
Arab14 Zyyy Arab3 Zyyy Arab32 Zyyy Arab10 Zinh11 Arab26 Zinh Arab108 Zyyy Arab34 Syrc14 Zzzz
Syrc60 Zzzz2 Syrc3 Arab48 Thaa50 Zzzz14 Nkoo59 Zzzz2 Nkoo3 Samr46 Zzzz2 Samr15 Zzzz Mand28 Zzzz2
Mand Zzzz Syrc11 Zzzz5 Arab34 Zzzz5 Arab75 Zyyy Arab29 Deva81 Zinh4 Deva15 Zyyy2 Deva26 Beng4
Zzzz Beng8 Zzzz2 Beng2 Zzzz2 Beng22 Zzzz Beng7 Zzzz Beng Zzzz3 Beng4 Zzzz2 Beng9 Zzzz2 Beng2
Zzzz2 Beng4 Zzzz8 Beng Zzzz4 Beng2 Zzzz Beng5 Zzzz2 Beng25 Zzzz2 Guru3 Zzzz Guru6 Zzzz4 Guru2
Zzzz2 Guru22 Zzzz Guru7 Zzzz Guru2 Zzzz Guru2 Zzzz Guru2 Zzzz2 Guru Zzzz Guru5 Zzzz4 Guru2 Zzzz2
Guru3 Zzzz3 Guru Zzzz7 Guru4 Zzzz Guru Zzzz7 Guru17 Zzzz10 Gujr3 Zzzz Gujr9 Zzzz Gujr3 Zzzz
Gujr22 Zzzz Gujr7 Zzzz Gujr2 Zzzz Gujr5 Zzzz2 Gujr10 Zzzz Gujr3 Zzzz Gujr3 Zzzz2 Gujr Zzzz15
Gujr4 Zzzz2 Gujr12 Zzzz7 Gujr7 Zzzz Orya3 Zzzz Orya8 Zzzz2 Orya2 Zzzz2 Orya22 Zzzz Orya7 Zzzz
Orya2 Zzzz Orya5 Zzzz2 Orya9 Zzzz2 Orya2 Zzzz2 Orya3 Zzzz7 Orya3 Zzzz4 Orya2 Zzzz Orya5 Zzzz2
Orya18 Zzzz10 Taml2 Zzzz Taml6 Zzzz3 Taml3 Zzzz Taml4 Zzzz3 Taml2 Zzzz Taml Zzzz Taml2 Zzzz3
Taml2 Zzzz3 Taml3 Zzzz3 Taml12 Zzzz4 Taml5 Zzzz3 Taml3 Zzzz Taml4 Zzzz2 Taml Zzzz6 Taml Zzzz14
Taml21 Zzzz5 Telu13 Zzzz Telu3 Zzzz Telu23 Zzzz Telu16 Zzzz2 Telu9 Zzzz Telu3 Zzzz Telu4 Zzzz7
Telu2 Zzzz Telu3 Zzzz Telu2 Zzzz2 Telu4 Zzzz2 Telu10 Zzzz7 Telu9 Knda13 Zzzz Knda3 Zzzz Knda23
Zzzz Knda10 Zzzz Knda5 Zzzz2 Knda9 Zzzz Knda3 Zzzz Knda4 Zzzz7 Knda2 Zzzz5 Knda3 Zzzz Knda4
Zzzz2 Knda10 Zzzz Knda3 Zzzz12 Mlym13 Zzzz Mlym3 Zzzz Mlym51 Zzzz Mlym3 Zzzz Mlym6 Zzzz4 Mlym16
Zzzz2 Mlym26 Zzzz Sinh3 Zzzz Sinh18 Zzzz3 Sinh24 Zzzz Sinh9 Zzzz Sinh Zzzz2 Sinh7 Zzzz3 Sinh
Zzzz4 Sinh6 Zzzz Sinh Zzzz Sinh8 Zzzz6 Sinh10 Zzzz2 Sinh3 Zzzz12 Thai58 Zzzz4 Zyyy Thai28 Zzzz37
Laoo2 Zzzz Laoo Zzzz Laoo5 Zzzz Laoo24 Zzzz Laoo Zzzz Laoo23 Zzzz2 Laoo5 Zzzz Laoo Zzzz Laoo7
Zzzz Laoo10 Zzzz2 Laoo4 Zzzz32 Tibt72 Zzzz Tibt36 Zzzz4 Tibt39 Zzzz Tibt36 Zzzz Tibt15 Zzzz
Tibt7 Zyyy4 Tibt2 Zzzz37 Mymr160 Geor38 Zzzz Geor Zzzz5 Geor Zzzz2 Geor43 Zyyy Geor4 Hang256
Ethi73 Zzzz Ethi4 Zzzz2 Ethi7 Zzzz Ethi Zzzz Ethi4 Zzzz2 Ethi41 Zzzz Ethi4 Zzzz2 Ethi33 Zzzz
Ethi4 Zzzz2 Ethi7 Zzzz Ethi Zzzz Ethi4 Zzzz2 Ethi15 Zzzz Ethi57 Zzzz Ethi4 Zzzz2 Ethi67 Zzzz2
Ethi32 Zzzz3 Ethi26 Zzzz6 Cher86 Zzzz2 Cher6 Zzzz2 Cans640 Ogam29 Zzzz3 Runr75 Zyyy3 Runr11
Zzzz7 Tglg22 Zzzz9 Tglg Hano21 Zyyy2 Zzzz9 Buhd20 Zzzz12 Tagb13 Zzzz Tagb3 Zzzz Tagb2 Zzzz12
Khmr94 Zzzz2 Khmr10 Zzzz6 Khmr10 Zzzz6 Mong2 Zyyy2 Mong Zyyy Mong20 Zzzz6 Mong89 Zzzz7 Mong43
Zzzz5 Cans70 Zzzz10 Limb31 Zzzz Limb12 Zzzz4 Limb12 Zzzz4 Limb Zzzz3 Limb12 Tale30 Zzzz2 Tale5
Zzzz11 Talu44 Zzzz4 Talu26 Zzzz6 Talu11 Zzzz3 Talu2 Khmr32 Bugi28 Zzzz2 Bugi2 Lana63 Zzzz Lana29
Zzzz2 Lana11 Zzzz6 Lana10 Zzzz6 Lana14 Zzzz2 Zinh46 Zzzz2 Zinh12 Zzzz20 Bali77 Zzzz Bali50
Sund64 Batk52 Zzzz8 Batk4 Lepc56 Zzzz3 Lepc15 Zzzz3 Lepc3 Olck48 Cyrl11 Zzzz5 Geor43 Zzzz2 Geor3
Sund8 Zzzz8 Zinh3 Zyyy Zinh13 Zyyy Zinh7 Zyyy4 Zinh Zyyy6 Zinh Zyyy3 Zinh2 Zyyy Zzzz5 Latn38
Grek5 Cyrl Latn49 Grek5 Latn4 Grek5 Latn13 Cyrl Latn70 Grek Zinh64 Latn256 Grek22 Zzzz2 Grek6
Zzzz2 Grek38 Zzzz2 Grek6 Zzzz2 Grek8 Zzzz Grek Zzzz Grek Zzzz Grek Zzzz Grek31 Zzzz2 Grek53 Zzzz
Grek15 Zzzz Grek14 Zzzz2 Grek6 Zzzz Grek19 Zzzz2 Grek3 Zzzz Grek9 Zzzz Zyyy12 Zinh2 Zyyy87 Zzzz
Zyyy11 Latn Zzzz2 Zyyy11 Latn Zyyy15 Zzzz Latn13 Zzzz3 Zyyy34 Zzzz14 Zinh33 Zzzz15 Zyyy38 Grek
Zyyy3 Latn2 Zyyy6 Latn Zyyy27 Latn Zyyy17 Latn41 Zyyy3 Zzzz4 Zyyy666 Zzzz22 Zyyy11 Zzzz21
Zyyy928 Brai256 Zyyy628 Zzzz2 Zyyy138 Glag96 Latn32 Copt116 Zzzz5 Copt7 Geor38 Zzzz Geor Zzzz5
Geor Zzzz2 Tfng56 Zzzz7 Tfng2 Zzzz14 Tfng Ethi23 Zzzz9 Ethi7 Zzzz Ethi7 Zzzz Ethi7 Zzzz Ethi7
Zzzz Ethi7 Zzzz Ethi7 Zzzz Ethi7 Zzzz Ethi7 Zzzz Cyrl32 Zyyy94 Zzzz34 Hani26 Zzzz Hani89 Zzzz12
Hani214 Zzzz26 Zyyy21 Hani Zyyy Hani Zyyy25 Hani9 Zinh4 Hang2 Zyyy8 Hani4 Zyyy4 Zzzz Hira86
Zzzz2 Zinh2 Zyyy2 Hira3 Zyyy Kana90 Zyyy2 Kana3 Zzzz5 Bopo43 Zzzz Hang94 Zzzz Zyyy16 Bopo32
Zyyy38 Zzzz9 Zyyy Kana16 Hang31 Zzzz Zyyy64 Hang31 Zyyy81 Kana47 Zyyy Kana88 Zyyy168 Hani6592
Zyyy64 Hani20992 Yiii1165 Zzzz3 Yiii55 Zzzz9 Lisu48 Vaii300 Zzzz20 Cyrl96 Bamu88 Zzzz8 Zyyy34
Latn102 Zyyy3 Latn82 Zzzz20 Latn15 Sylo45 Zzzz3 Zyyy10 Zzzz6 Phag56 Zzzz8 Saur70 Zzzz8 Saur12
Zzzz6 Deva32 Kali46 Zyyy Kali Rjng36 Zzzz11 Rjng Hang29 Zzzz3 Java78 Zzzz Zyyy Java10 Zzzz4
Java2 Mymr31 Zzzz Cham55 Zzzz9 Cham14 Zzzz2 Cham10 Zzzz2 Cham4 Mymr32 Tavt67 Zzzz24 Tavt5 Mtei23
Zzzz10 Ethi6 Zzzz2 Ethi6 Zzzz2 Ethi6 Zzzz9 Ethi7 Zzzz Ethi7 Zzzz Latn43 Zyyy Latn9 Grek Latn4
Zyyy2 Zzzz4 Cher80 Mtei46 Zzzz2 Mtei10 Zzzz6 Hang11172 Zzzz12 Hang23 Zzzz4 Hang49 Zzzz8452
Hani366 Zzzz2 Hani106 Zzzz38 Latn7 Zzzz12 Armn5 Zzzz5 Hebr26 Zzzz Hebr5 Zzzz Hebr Zzzz Hebr2
Zzzz Hebr2 Zzzz Hebr10 Arab494 Zyyy2 Arab144 Zzzz32 Arab16 Zinh16 Zyyy10 Zzzz6 Zinh14 Cyrl2
Zyyy35 Zzzz Zyyy19 Zzzz Zyyy4 Zzzz4 Arab5 Zzzz Arab135 Zzzz2 Zyyy Zzzz Zyyy32 Latn26 Zyyy6
Latn26 Zyyy11 Kana10 Zyyy Kana45 Zyyy2 Hang31 Zzzz3 Hang6 Zzzz2 Hang6 Zzzz2 Hang6 Zzzz2 Hang3
Zzzz3 Zyyy7 Zzzz Zyyy7 Zzzz10 Zyyy5 Zzzz2 Linb12 Zzzz Linb26 Zzzz Linb19 Zzzz Linb2 Zzzz Linb15
Zzzz2 Linb14 Zzzz34 Linb123 Zzzz5 Zyyy3 Zzzz4 Zyyy45 Zzzz3 Zyyy9 Grek79 Zzzz Zyyy13 Zzzz3 Grek
Zzzz47 Zyyy45 Zinh Zzzz130 Lyci29 Zzzz3 Cari49 Zzzz15 Zinh Zyyy27 Zzzz4 Ital36 Zzzz9 Ital3
Goth27 Zzzz5 Perm43 Zzzz5 Ugar30 Zzzz Ugar Xpeo36 Zzzz4 Xpeo14 Zzzz42 Dsrt80 Shaw48 Osma30 Zzzz2
Osma10 Zzzz6 Osge36 Zzzz4 Osge36 Zzzz4 Elba40 Zzzz8 Aghb52 Zzzz11 Aghb Vith11 Zzzz Vith15 Zzzz
Vith7 Zzzz Vith2 Zzzz Vith11 Zzzz Vith15 Zzzz Vith7 Zzzz Vith2 Zzzz3 Todr52 Zzzz12 Lina311 Zzzz9
Lina22 Zzzz10 Lina8 Zzzz24 Latn6 Zzzz Latn42 Zzzz Latn9 Zzzz69 Cprt6 Zzzz2 Cprt Zzzz Cprt44 Zzzz
Cprt2 Zzzz3 Cprt Zzzz2 Cprt Armi22 Zzzz Armi9 Palm32 Nbat31 Zzzz8 Nbat9 Zzzz48 Hatr19 Zzzz Hatr2
Zzzz5 Hatr5 Phnx28 Zzzz3 Phnx Lydi26 Zzzz5 Lydi Sidt26 Zzzz38 Mero32 Merc24 Zzzz4 Merc20 Zzzz2
Merc46 Khar4 Zzzz Khar2 Zzzz5 Khar8 Zzzz Khar3 Zzzz Khar29 Zzzz2 Khar3 Zzzz4 Khar10 Zzzz7 Khar9
Zzzz7 Sarb32 Narb32 Zzzz32 Mani39 Zzzz4 Mani12 Zzzz9 Avst54 Zzzz3 Avst7 Prti22 Zzzz2 Prti8
Phli19 Zzzz5 Phli8 Phlp18 Zzzz7 Phlp4 Zzzz12 Phlp7 Zzzz80 Orkh73 Zzzz55 Hung51 Zzzz13 Hung51
Zzzz7 Hung6 Rohg40 Zzzz8 Rohg10 Zzzz6 Gara38 Zzzz3 Gara29 Zzzz8 Gara2 Zzzz208 Arab31 Zzzz Yezi42
Zzzz Yezi3 Zzzz2 Yezi2 Zzzz16 Arab6 Zzzz8 Arab9 Zzzz33 Arab6 Sogo40 Zzzz8 Sogd42 Zzzz22 Ougr26
Zzzz38 Chrs28 Zzzz20 Elym23 Zzzz9 Brah78 Zzzz4 Brah36 Zzzz9 Brah Kthi67 Zzzz10 Kthi Zzzz2 Sora25
Zzzz7 Sora10 Zzzz6 Cakm53 Zzzz Cakm18 Zzzz8 Mahj39 Zzzz9 Shrd96 Zzzz Sinh20 Zzzz11 Khoj18 Zzzz
Khoj47 Zzzz62 Mult7 Zzzz Mult Zzzz Mult4 Zzzz Mult15 Zzzz Mult11 Zzzz6 Sind59 Zzzz5 Sind10 Zzzz6
Gran4 Zzzz Gran8 Zzzz2 Gran2 Zzzz2 Gran22 Zzzz Gran7 Zzzz Gran2 Zzzz Gran5 Zzzz Zinh Gran9 Zzzz2
Gran2 Zzzz2 Gran3 Zzzz2 Gran Zzzz6 Gran Zzzz5 Gran7 Zzzz2 Gran7 Zzzz3 Gran5 Zzzz11 Tutg10 Zzzz
Tutg Zzzz2 Tutg Zzzz Tutg38 Zzzz Tutg10 Zzzz Tutg Zzzz2 Tutg Zzzz Tutg4 Zzzz Tutg10 Zzzz Tutg2
Zzzz8 Tutg2 Zzzz29 Newa92 Zzzz Newa5 Zzzz30 Tirh72 Zzzz8 Tirh10 Zzzz166 Sidd54 Zzzz2 Sidd38
Zzzz34 Modi69 Zzzz11 Modi10 Zzzz6 Mong13 Zzzz19 Takr58 Zzzz6 Takr10 Zzzz6 Mymr20 Zzzz28 Ahom27
Zzzz2 Ahom15 Zzzz4 Ahom23 Zzzz185 Dogr60 Zzzz100 Wara83 Zzzz12 Wara Diak7 Zzzz2 Diak Zzzz2 Diak8
Zzzz Diak2 Zzzz Diak30 Zzzz Diak2 Zzzz2 Diak12 Zzzz9 Diak10 Zzzz70 Nand8 Zzzz2 Nand46 Zzzz2
Nand11 Zzzz27 Zanb72 Zzzz8 Soyo83 Zzzz13 Cans16 Pauc57 Zzzz7 Deva10 Zzzz86 Shrd8 Zzzz88 Sunu34
Zzzz14 Sunu10 Zzzz6 Bhks9 Zzzz Bhks45 Zzzz Bhks14 Zzzz10 Bhks29 Zzzz3 Marc32 Zzzz2 Marc22 Zzzz
Marc14 Zzzz73 Gonm7 Zzzz Gonm2 Zzzz Gonm44 Zzzz3 Gonm Zzzz Gonm2 Zzzz Gonm9 Zzzz8 Gonm10 Zzzz6
Gong6 Zzzz Gong2 Zzzz Gong37 Zzzz Gong2 Zzzz Gong6 Zzzz7 Gong10 Zzzz6 Tols44 Zzzz4 Tols10
Zzzz246 Maka25 Zzzz7 Kawi17 Zzzz Kawi41 Zzzz3 Kawi29 Zzzz85 Lisu Zzzz15 Taml50 Zzzz13 Taml
Xsux922 Zzzz102 Xsux111 Zzzz Xsux5 Zzzz11 Xsux196 Zzzz2636 Cpmn99 Zzzz13 Egyp1110 Zzzz10
Egyp3995 Zzzz5 Hluw583 Zzzz6841 Gukh58 Zzzz1734 Bamu569 Zzzz7 Mroo31 Zzzz Mroo10 Zzzz4 Mroo2
Tnsa79 Zzzz Tnsa10 Zzzz6 Bass30 Zzzz2 Bass6 Zzzz10 Hmng70 Zzzz10 Hmng10 Zzzz Hmng7 Zzzz Hmng21
Zzzz5 Hmng19 Zzzz432 Krai58 Zzzz198 Medf91 Zzzz5 Berf25 Zzzz2 Berf25 Zzzz44 Plrd75 Zzzz4 Plrd57
Zzzz7 Plrd17 Zzzz64 Tang Nshu Hani2 Kits Zzzz11 Hani7 Zzzz9 Tang6912 Kits470 Zzzz41 Kits Tang31
Zzzz97 Tang115 Zzzz8701 Kana4 Zzzz Kana7 Zzzz Kana2 Zzzz Kana Hira287 Kana3 Zzzz15 Hira Zzzz29
Hira3 Zzzz2 Kana Zzzz14 Kana4 Zzzz8 Nshu396 Zzzz2308 Dupl107 Zzzz5 Dupl13 Zzzz3 Dupl9 Zzzz7
Dupl10 Zzzz2 Dupl4 Zyyy4 Zzzz3932 Zyyy253 Zzzz3 Zyyy436 Zzzz6 Zyyy23 Zzzz15 Zyyy17 Zzzz15 Zinh46
Zzzz2 Zinh23 Zzzz9 Zyyy116 Zzzz60 Zyyy246 Zzzz10 Zyyy39 Zzzz2 Zyyy62 Zinh3 Zyyy17 Zinh8 Zyyy2
Zinh7 Zyyy30 Zinh4 Zyyy61 Zzzz21 Grek70 Zzzz122 Zyyy20 Zzzz12 Zyyy20 Zzzz12 Zyyy87 Zzzz9 Zyyy25
Zzzz135 Zyyy85 Zzzz Zyyy71 Zzzz Zyyy2 Zzzz2 Zyyy Zzzz2 Zyyy2 Zzzz2 Zyyy4 Zzzz Zyyy12 Zzzz Zyyy
Zzzz Zyyy7 Zzzz Zyyy65 Zzzz Zyyy4 Zzzz2 Zyyy8 Zzzz Zyyy7 Zzzz Zyyy28 Zzzz Zyyy4 Zzzz Zyyy5 Zzzz
Zyyy Zzzz3 Zyyy7 Zzzz Zyyy340 Zzzz2 Zyyy292 Zzzz2 Zyyy50 Sgnw652 Zzzz15 Sgnw5 Zzzz Sgnw15
Zzzz1104 Latn31 Zzzz6 Latn6 Zzzz213 Glag7 Zzzz Glag17 Zzzz2 Glag7 Zzzz Glag2 Zzzz Glag5 Zzzz5
Cyrl62 Zzzz33 Cyrl Zzzz112 Hmnp45 Zzzz3 Hmnp14 Zzzz2 Hmnp10 Zzzz4 Hmnp2 Zzzz320 Toto31 Zzzz17
Wcho58 Zzzz5 Wcho Zzzz464 Nagm42 Zzzz214 Onao43 Zzzz4 Onao Zzzz192 Tayo31 Zzzz Tayo22 Zzzz8
Tayo2 Zzzz224 Ethi7 Zzzz Ethi4 Zzzz Ethi2 Zzzz Ethi15 Zzzz Mend197 Zzzz2 Mend16 Zzzz41 Adlm76
Zzzz4 Adlm10 Zzzz4 Adlm2 Zzzz785 Zyyy68 Zzzz76 Zyyy61 Zzzz194 Arab4 Zzzz Arab27 Zzzz Arab2 Zzzz
Arab Zzzz2 Arab Zzzz Arab10 Zzzz Arab4 Zzzz Arab Zzzz Arab Zzzz6 Arab Zzzz4 Arab Zzzz Arab Zzzz
Arab Zzzz Arab3 Zzzz Arab2 Zzzz Arab Zzzz2 Arab Zzzz Arab Zzzz Arab Zzzz Arab Zzzz Arab Zzzz
Arab2 Zzzz Arab Zzzz2 Arab4 Zzzz Arab7 Zzzz Arab4 Zzzz Arab4 Zzzz Arab Zzzz Arab10 Zzzz Arab17
Zzzz5 Arab3 Zzzz Arab5 Zzzz Arab17 Zzzz52 Arab2 Zzzz270 Zyyy44 Zzzz4 Zyyy100 Zzzz12 Zyyy15 Zzzz2
Zyyy15 Zzzz Zyyy15 Zzzz Zyyy37 Zzzz10 Zyyy174 Zzzz56 Zyyy26 Hira Zyyy2 Zzzz13 Zyyy44 Zzzz4 Zyyy9
Zzzz7 Zyyy2 Zzzz14 Zyyy6 Zzzz154 Zyyy985 Zzzz3 Zyyy17 Zzzz3 Zyyy13 Zzzz3 Zyyy218 Zzzz6 Zyyy12
Zzzz4 Zyyy Zzzz15 Zyyy12 Zzzz4 Zyyy56 Zzzz8 Zyyy10 Zzzz6 Zyyy40 Zzzz8 Zyyy30 Zzzz2 Zyyy12 Zzzz4
Zyyy2 Zzzz14 Zyyy9 Zzzz39 Zyyy344 Zzzz8 Zyyy14 Zzzz2 Zyyy13 Zzzz3 Zyyy11 Zzzz3 Zyyy57 Zzzz Zyyy
Zzzz4 Zyyy16 Zzzz2 Zyyy12 Zzzz4 Zyyy10 Zzzz7 Zyyy147 Zzzz Zyyy103 Zzzz1029 Hani42720 Zzzz32
Hani4382 Zzzz2 Hani5774 Zzzz2 Hani7473 Zzzz15 Hani622 Zzzz2466 Hani542 Zzzz1506 Hani4939 Zzzz5
Hani8490 Zzzz707463 Zyyy Zzzz30 Zyyy96 Zzzz128 Zinh240 Zzzz196112
".toList

def scriptNameTable : Text := "
Adlm:adlm:adlam Aghb:aghb:caucasianalbanian Ahom:ahom Arab:arab:arabic Armi:armi:imperialaramaic
Armn:armn:armenian Avst:avst:avestan Bali:bali:balinese Bamu:bamu:bamum Bass:bass:bassavah
Batk:batk:batak Beng:beng:bengali Bhks:bhks:bhaiksuki Bopo:bopo:bopomofo Brah:brah:brahmi
Brai:brai:braille Bugi:bugi:buginese Buhd:buhd:buhid Cakm:cakm:chakma
Cans:cans:canadianaboriginal Cari:cari:carian Cham:cham Cher:cher:cherokee Chrs:chrs:chorasmian
Copt:copt:coptic:qaac Cpmn:cpmn:cyprominoan Cprt:cprt:cypriot Cyrl:cyrl:cyrillic
Deva:deva:devanagari Diak:diak:divesakuru Dogr:dogr:dogra Dsrt:dsrt:deseret Dupl:dupl:duployan
Egyp:egyp:egyptianhieroglyphs Elba:elba:elbasan Elym:elym:elymaic Ethi:ethi:ethiopic
Geor:geor:georgian Glag:glag:glagolitic Gong:gong:gunjalagondi Gonm:gonm:masaramgondi
Goth:goth:gothic Gran:gran:grantha Grek:grek:greek Gujr:gujr:gujarati Guru:guru:gurmukhi
Hang:hang:hangul Hani:hani:han Hano:hano:hanunoo Hatr:hatr:hatran Hebr:hebr:hebrew
Hira:hira:hiragana Hluw:hluw:anatolianhieroglyphs Hmng:hmng:pahawhhmong
Hmnp:hmnp:nyiakengpuachuehmong Hung:hung:oldhungarian Ital:ital:olditalic Java:java:javanese
Kali:kali:kayahli Kana:kana:katakana Kawi:kawi Khar:khar:kharoshthi Khmr:khmr:khmer
Khoj:khoj:khojki Kits:kits:khitansmallscript Knda:knda:kannada Kthi:kthi:kaithi
Lana:lana:taitham Laoo:laoo:lao Latn:latn:latin Lepc:lepc:lepcha Limb:limb:limbu
Lina:lina:lineara Linb:linb:linearb Lisu:lisu Lyci:lyci:lycian Lydi:lydi:lydian
Mahj:mahj:mahajani Maka:maka:makasar Mand:mand:mandaic Mani:mani:manichaean Marc:marc:marchen
Medf:medf:medefaidrin Mend:mend:mendekikakui Merc:merc:meroiticcursive
Mero:mero:meroitichieroglyphs Mlym:mlym:malayalam Modi:modi Mong:mong:mongolian Mroo:mroo:mro
Mtei:mtei:meeteimayek Mult:mult:multani Mymr:mymr:myanmar Nagm:nagm:nagmundari
Nand:nand:nandinagari Narb:narb:oldnortharabian Nbat:nbat:nabataean Newa:newa Nkoo:nkoo:nko
Nshu:nshu:nushu Ogam:ogam:ogham Olck:olck:olchiki Orkh:orkh:oldturkic Orya:orya:oriya
Osge:osge:osage Osma:osma:osmanya Ougr:ougr:olduyghur Palm:palm:palmyrene Pauc:pauc:paucinhau
Perm:perm:oldpermic Phag:phag:phagspa Phli:phli:inscriptionalpahlavi Phlp:phlp:psalterpahlavi
Phnx:phnx:phoenician Plrd:plrd:miao Prti:prti:inscriptionalparthian Rjng:rjng:rejang
Rohg:rohg:hanifirohingya Runr:runr:runic Samr:samr:samaritan Sarb:sarb:oldsoutharabian
Saur:saur:saurashtra Sgnw:sgnw:signwriting Shaw:shaw:shavian Shrd:shrd:sharada Sidd:sidd:siddham
Sind:sind:khudawadi Sinh:sinh:sinhala Sogd:sogd:sogdian Sogo:sogo:oldsogdian
Sora:sora:sorasompeng Soyo:soyo:soyombo Sund:sund:sundanese Sylo:sylo:sylotinagri
Syrc:syrc:syriac Tagb:tagb:tagbanwa Takr:takr:takri Tale:tale:taile Talu:talu:newtailue
Taml:taml:tamil Tang:tang:tangut Tavt:tavt:taiviet Telu:telu:telugu Tfng:tfng:tifinagh
Tglg:tglg:tagalog Thaa:thaa:thaana Thai:thai Tibt:tibt:tibetan Tirh:tirh:tirhuta
Tnsa:tnsa:tangsa Toto:toto Ugar:ugar:ugaritic Vaii:vaii:vai Vith:vith:vithkuqi
Wara:wara:warangciti Wcho:wcho:wancho Xpeo:xpeo:oldpersian Xsux:xsux:cuneiform Yezi:yezi:yezidi
Yiii:yiii:yi Zanb:zanb:zanabazarsquare Zinh:zinh:inherited:qaai Zyyy:zyyy:common
Zzzz:zzzz:unknown Gara:gara:garay Gukh:gukh:gurungkhema Krai:krai:kiratrai Onao:onao:olonal
Sunu:sunu:sunuwar Todr:todr:todhri Tutg:tutg:tulutigalari Berf:berf:beriaerfe Sidt:sidt:sidetic
Tayo:tayo:taiyo Tols:tols:tolongsiki
".toList

def scriptExtensionTable : Text := "
Adlm 1567:1 32:1 6670:1 3569:1
Aghb 772:1 44:1 44:1
Arab 1548:1 14:1 3:1 32:1 10:11 26:1 6622:1 3569:1 52988:2 1440:28
Armn 776:1
Avst 183:1 11640:2
Beng 700:1 1684:2 17:2 4970:1 1:1 2:2 1:1 8:1 8:1 2:1 4:1 2:3 35833:1
Bopo 711:1 1:3 13:1 11559:3 4:10 1:13 10:4 2:1 6:1 195:1 52553:2 282:5
Bugi 43471:1
Buhd 5941:2
Cakm 2534:10 1616:10
Cari 183:1 8098:1 2:1 3539:1
Cher 768:3 1:1 6:2 22:2 11:2
Copt 183:1 584:1 3:2 1:1 108:2 10913:1 54472:28
Cpmn 65792:2
Cprt 65792:3 4:45 3:9
Cyrl 700:1 67:3 1:1 1:1 1:1 2:1 5:1 371:2 6513:1 4170:1
Deva 700:1 1684:2 17:2 4970:39 1:2 1014:1 34623:10
Dogr 2404:12 40640:10
Dupl 183:1 591:2 1:1 24:2 11031:1 101987:4
Elba 183:1 589:1
Ethi 782:1
Geor 183:1 1233:1 2929:1 3934:1 3542:1
Glag 183:1 587:1 1:1 382:1 2:1 257:1 2929:1 3934:1 3560:1 30763:1
Gong 183:1 2220:2
Gonm 2404:2
Goth 183:1 588:2 2:1 40:1
Gran 2385:2 17:2 640:14 4316:1 1:2 30:3 3:2 1014:1 62026:1 3220:2 1:1
Grek 183:1 584:2 2:1 1:1 1:1 10:1 46:1 2:1 46:1 6731:2 667:1
Gujr 2385:2 17:2 40650:10
Guru 2385:2 17:2 40650:10
Hang 12289:3 4:10 1:13 16:1 6:1 195:1 52553:2 282:5
Hani 183:1 12088:16 1:3 2:1 1:10 1:13 10:4 2:1 6:1 4:4 187:1 148:16 32:38 9:1 48:40 56:49 15:12
51:1 88:25 10:5 96:31 29441:8 22333:2 282:5 54266:18 7902:2
Hano 5941:2
Hebr 775:2
Hira 12289:3 4:10 1:13 16:6 1:1 4:2 91:4 3:1 90:2 52552:2 282:5 10:1 45:2
Hung 8282:1 2:1 3539:1 15:1
Java 43471:1
Kali 43310:1
Kana 773:1 29:1 11485:3 4:10 1:13 16:6 1:1 4:2 91:4 3:1 90:2 52552:2 282:5 10:1 45:2
Khoj 2790:10 40256:10
Knda 2385:2 17:2 4970:1 1:2 6:1 23:1 1:1 35643:6
Kthi 2406:10 9409:1 31230:10
Latn 183:1 516:1 10:1 1:3 1:1 9:1 1:1 38:15 1:2 1:1 15:3 7:2 1:2 38:1 5:1 4:13 277:2 1226:2
1960:1 3324:1 566:1 192:1 3366:1 30952:8 550:1
Limb 2405:1
Lina 65799:45
Linb 65792:3 4:45 3:9
Lisu 700:1 16:1 11580:2
Lyci 8282:1
Lydi 183:1 11641:1
Mahj 183:1 2220:12 40640:10
Mand 1600:1
Mani 1600:1
Mero 8285:1
Mlym 2385:2 17:2 4980:1 23:1 35645:3
Modi 43056:10
Mong 6146:2 1:1 2089:1 4049:2 5:4
Mult 2662:10
Mymr 43310:1
Nand 2385:1 18:2 896:10 4089:1 8:1 7:1 35637:6
Newa 2385:2 4994:1 1:2 9:1 6:1 1:1 1:1
Nkoo 1548:1 14:1 3:1 63262:2
Orkh 8282:1 3541:1
Orya 2385:2 17:2 4980:1 23:1
Osge 769:1 2:1 6:1 76:1
Ougr 1600:1 66737:1
Perm 183:1 584:1 5:3 10:1 367:1
Phag 6146:2 1:1 2089:1 4050:1
Phlp 1600:1
Rohg 1548:1 14:1 3:1 32:1 147:1
Runr 5867:3
Samr 11825:1
Shaw 183:1
Shrd 2385:1 4997:1 1:1 2:2 2:1 9:1 2:1 35650:6 2:1
Sind 2404:2 40650:10
Sinh 2404:2 5004:1
Sogd 1600:1
Sylo 2404:2 128:10
Syrc 771:2 2:2 1:1 24:3 7:2 1:2 730:1 14:2 2:1 32:1 10:11 26:1 6023:1 1:1
Tagb 5941:2
Takr 2404:2 40650:10
Tale 768:2 5:2 3:1 3379:10
Taml 2385:2 17:2 4980:1 35864:1 27149:1 1:1 55:2
Tang 12272:16 495:1
Telu 2385:2 17:2 4975:2 1:1 1:1 23:1
Tfng 770:1 1:1 1:4 25:1
Tglg 5941:2
Thaa 1548:1 14:2 2:1 64:10 63368:1 10:1
Thai 700:1 26:1 43:1 45:1
Tibt 12296:4
Tirh 2385:2 17:2 4975:1 12:1 15:1 35645:10
Toto 700:1
Yezi 1548:1 14:1 3:1 64:10
Yiii 12289:2 5:10 2:8 223:1 52837:5
Zinh 768:15 1:2 1:1 15:3 7:2 1:2 16:1 2:1 18:1 5:1 4:13 277:2 452:11 26:1 736:2 4989:3 1:13 1:7
4:1 6:1 3:2 198:2 54:1 1:1 757:1 3897:4 107:2 53829:1 4186:1
Zyyy 183:1 516:1 10:1 1:3 1:1 9:1 1:1 154:1 663:1 14:1 3:1 32:1 803:2 1941:1 1519:3 71:2 203:2
1:1 1229:1 13:1 7:4 1:6 1:3 2:1 820:1 31:1 10:1 2:1 3513:1 24:2 10:1 4:1 1:1 428:16 1:3 2:1 1:10
1:13 16:6 1:1 4:4 91:2 3:1 90:2 147:16 32:38 9:1 48:40 56:49 15:12 51:1 88:25 10:5 96:31 29441:8
296:10 244:1 160:1 21358:2 261:2 282:5 10:1 45:2 352:3 4:45 3:9 417:27 47524:4 5820:18 7902:2
Gara 1548:1 14:1 3:1
Gukh 2405:1
Onao 2404:2
Sunu 768:2 1:1 9:1 2:1 28:1 3:1
Todr 769:1 2:1 2:1 9:1 1:1 74:1
Tutg 3302:10 4098:1 1:1 35643:6 187:1
".toList

def scriptRuns : Runs Text := .ofValues id scriptTable

def scriptNames : List (Text × Text) :=
  (Text.words scriptNameTable).flatMap fun entry =>
    match Text.cutAt (· == ':') entry with
    | [] => []
    | short :: names => names.map (·, short)

/-- For each script the characters whose membership differs when extensions count. -/
def scriptExtensions : List (Text × Runs Bool) :=
  (((Text.words scriptExtensionTable).splitBy fun _ b => b.any (· == ':')).filterMap fun
    | [] => none
    | short :: gaps => some (short, .ofGaps (['\n'].intercalate gaps)))

def script? (name : Text) : Option Text := scriptNames.lookup name

def inScript (short : Text) (c : Char) : Bool := scriptRuns.find? c == some short

def inScriptExtensions (short : Text) (c : Char) : Bool :=
  inScript short c != ((scriptExtensions.lookup short).any fun r => r.has c)

end DiffBudget.Unicode
