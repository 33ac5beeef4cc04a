import StyleTypings.Unicode.Runs

namespace StyleTypings.Unicode

def scriptTable : String :=
  String.join [
    "65Zyyy26Latn6Zyyy26Latn47Zyyy1Latn15Zyyy1Latn5Zyyy23Latn1Zyyy31Latn1Zyyy449Latn39Zyyy5Latn5Z",
    "yyy2Bopo20Zyyy112Zinh4Grek1Zyyy3Grek2Zzzz4Grek1Zyyy1Grek4Zzzz1Grek1Zyyy1Grek1Zyyy3Grek1Zzzz1",
    "Grek1Zzzz20Grek1Zzzz63Grek14Copt16Grek133Cyrl2Zinh169Cyrl1Zzzz38Armn2Zzzz50Armn2Zzzz3Armn1Zz",
    "zz55Hebr8Zzzz27Hebr4Zzzz6Hebr11Zzzz5Arab1Zyyy6Arab1Zyyy14Arab1Zyyy3Arab1Zyyy32Arab1Zyyy10Ara",
    "b11Zinh26Arab1Zinh108Arab1Zyyy34Arab14Syrc1Zzzz60Syrc2Zzzz3Syrc48Arab50Thaa14Zzzz59Nkoo2Zzzz",
    "3Nkoo46Samr2Zzzz15Samr1Zzzz28Mand2Zzzz1Mand1Zzzz11Syrc5Zzzz34Arab5Zzzz75Arab1Zyyy29Arab81Dev",
    "a4Zinh15Deva2Zyyy26Deva4Beng1Zzzz8Beng2Zzzz2Beng2Zzzz22Beng1Zzzz7Beng1Zzzz1Beng3Zzzz4Beng2Zz",
    "zz9Beng2Zzzz2Beng2Zzzz4Beng8Zzzz1Beng4Zzzz2Beng1Zzzz5Beng2Zzzz25Beng2Zzzz3Guru1Zzzz6Guru4Zzz",
    "z2Guru2Zzzz22Guru1Zzzz7Guru1Zzzz2Guru1Zzzz2Guru1Zzzz2Guru2Zzzz1Guru1Zzzz5Guru4Zzzz2Guru2Zzzz",
    "3Guru3Zzzz1Guru7Zzzz4Guru1Zzzz1Guru7Zzzz17Guru10Zzzz3Gujr1Zzzz9Gujr1Zzzz3Gujr1Zzzz22Gujr1Zzz",
    "z7Gujr1Zzzz2Gujr1Zzzz5Gujr2Zzzz10Gujr1Zzzz3Gujr1Zzzz3Gujr2Zzzz1Gujr15Zzzz4Gujr2Zzzz12Gujr7Zz",
    "zz7Gujr1Zzzz3Orya1Zzzz8Orya2Zzzz2Orya2Zzzz22Orya1Zzzz7Orya1Zzzz2Orya1Zzzz5Orya2Zzzz9Orya2Zzz",
    "z2Orya2Zzzz3Orya7Zzzz3Orya4Zzzz2Orya1Zzzz5Orya2Zzzz18Orya10Zzzz2Taml1Zzzz6Taml3Zzzz3Taml1Zzz",
    "z4Taml3Zzzz2Taml1Zzzz1Taml1Zzzz2Taml3Zzzz2Taml3Zzzz3Taml3Zzzz12Taml4Zzzz5Taml3Zzzz3Taml1Zzzz",
    "4Taml2Zzzz1Taml6Zzzz1Taml14Zzzz21Taml5Zzzz13Telu1Zzzz3Telu1Zzzz23Telu1Zzzz16Telu2Zzzz9Telu1Z",
    "zzz3Telu1Zzzz4Telu7Zzzz2Telu1Zzzz3Telu1Zzzz2Telu2Zzzz4Telu2Zzzz10Telu7Zzzz9Telu13Knda1Zzzz3K",
    "nda1Zzzz23Knda1Zzzz10Knda1Zzzz5Knda2Zzzz9Knda1Zzzz3Knda1Zzzz4Knda7Zzzz2Knda5Zzzz3Knda1Zzzz4K",
    "nda2Zzzz10Knda1Zzzz3Knda12Zzzz13Mlym1Zzzz3Mlym1Zzzz51Mlym1Zzzz3Mlym1Zzzz6Mlym4Zzzz16Mlym2Zzz",
    "z26Mlym1Zzzz3Sinh1Zzzz18Sinh3Zzzz24Sinh1Zzzz9Sinh1Zzzz1Sinh2Zzzz7Sinh3Zzzz1Sinh4Zzzz6Sinh1Zz",
    "zz1Sinh1Zzzz8Sinh6Zzzz10Sinh2Zzzz3Sinh12Zzzz58Thai4Zzzz1Zyyy28Thai37Zzzz2Laoo1Zzzz1Laoo1Zzzz",
    "5Laoo1Zzzz24Laoo1Zzzz1Laoo1Zzzz23Laoo2Zzzz5Laoo1Zzzz1Laoo1Zzzz7Laoo1Zzzz10Laoo2Zzzz4Laoo32Zz",
    "zz72Tibt1Zzzz36Tibt4Zzzz39Tibt1Zzzz36Tibt1Zzzz15Tibt1Zzzz7Tibt4Zyyy2Tibt37Zzzz160Mymr38Geor1",
    "Zzzz1Geor5Zzzz1Geor2Zzzz43Geor1Zyyy4Geor256Hang73Ethi1Zzzz4Ethi2Zzzz7Ethi1Zzzz1Ethi1Zzzz4Eth",
    "i2Zzzz41Ethi1Zzzz4Ethi2Zzzz33Ethi1Zzzz4Ethi2Zzzz7Ethi1Zzzz1Ethi1Zzzz4Ethi2Zzzz15Ethi1Zzzz57E",
    "thi1Zzzz4Ethi2Zzzz67Ethi2Zzzz32Ethi3Zzzz26Ethi6Zzzz86Cher2Zzzz6Cher2Zzzz640Cans29Ogam3Zzzz75",
    "Runr3Zyyy11Runr7Zzzz22Tglg9Zzzz1Tglg21Hano2Zyyy9Zzzz20Buhd12Zzzz13Tagb1Zzzz3Tagb1Zzzz2Tagb12",
    "Zzzz94Khmr2Zzzz10Khmr6Zzzz10Khmr6Zzzz2Mong2Zyyy1Mong1Zyyy20Mong6Zzzz89Mong7Zzzz43Mong5Zzzz70",
    "Cans10Zzzz31Limb1Zzzz12Limb4Zzzz12Limb4Zzzz1Limb3Zzzz12Limb30Tale2Zzzz5Tale11Zzzz44Talu4Zzzz",
    "26Talu6Zzzz11Talu3Zzzz2Talu32Khmr28Bugi2Zzzz2Bugi63Lana1Zzzz29Lana2Zzzz11Lana6Zzzz10Lana6Zzz",
    "z14Lana2Zzzz46Zinh2Zzzz12Zinh20Zzzz77Bali1Zzzz50Bali64Sund52Batk8Zzzz4Batk56Lepc3Zzzz15Lepc3",
    "Zzzz3Lepc48Olck11Cyrl5Zzzz43Geor2Zzzz3Geor8Sund8Zzzz3Zinh1Zyyy13Zinh1Zyyy7Zinh4Zyyy1Zinh6Zyy",
    "y1Zinh3Zyyy2Zinh1Zyyy5Zzzz38Latn5Grek1Cyrl49Latn5Grek4Latn5Grek13Latn1Cyrl70Latn1Grek64Zinh2",
    "56Latn22Grek2Zzzz6Grek2Zzzz38Grek2Zzzz6Grek2Zzzz8Grek1Zzzz1Grek1Zzzz1Grek1Zzzz1Grek1Zzzz31Gr",
    "ek2Zzzz53Grek1Zzzz15Grek1Zzzz14Grek2Zzzz6Grek1Zzzz19Grek2Zzzz3Grek1Zzzz9Grek1Zzzz12Zyyy2Zinh",
    "87Zyyy1Zzzz11Zyyy1Latn2Zzzz11Zyyy1Latn15Zyyy1Zzzz13Latn3Zzzz34Zyyy14Zzzz33Zinh15Zzzz38Zyyy1G",
    "rek3Zyyy2Latn6Zyyy1Latn27Zyyy1Latn17Zyyy41Latn3Zyyy4Zzzz666Zyyy22Zzzz11Zyyy21Zzzz928Zyyy256B",
    "rai628Zyyy2Zzzz138Zyyy96Glag32Latn116Copt5Zzzz7Copt38Geor1Zzzz1Geor5Zzzz1Geor2Zzzz56Tfng7Zzz",
    "z2Tfng14Zzzz1Tfng23Ethi9Zzzz7Ethi1Zzzz7Ethi1Zzzz7Ethi1Zzzz7Ethi1Zzzz7Ethi1Zzzz7Ethi1Zzzz7Eth",
    "i1Zzzz7Ethi1Zzzz32Cyrl94Zyyy34Zzzz26Hani1Zzzz89Hani12Zzzz214Hani26Zzzz21Zyyy1Hani1Zyyy1Hani2",
    "5Zyyy9Hani4Zinh2Hang8Zyyy4Hani4Zyyy1Zzzz86Hira2Zzzz2Zinh2Zyyy3Hira1Zyyy90Kana2Zyyy3Kana5Zzzz",
    "43Bopo1Zzzz94Hang1Zzzz16Zyyy32Bopo38Zyyy9Zzzz1Zyyy16Kana31Hang1Zzzz64Zyyy31Hang81Zyyy47Kana1",
    "Zyyy88Kana168Zyyy6592Hani64Zyyy20992Hani1165Yiii3Zzzz55Yiii9Zzzz48Lisu300Vaii20Zzzz96Cyrl88B",
    "amu8Zzzz34Zyyy102Latn3Zyyy82Latn20Zzzz15Latn45Sylo3Zzzz10Zyyy6Zzzz56Phag8Zzzz70Saur8Zzzz12Sa",
    "ur6Zzzz32Deva46Kali1Zyyy1Kali36Rjng11Zzzz1Rjng29Hang3Zzzz78Java1Zzzz1Zyyy10Java4Zzzz2Java31M",
    "ymr1Zzzz55Cham9Zzzz14Cham2Zzzz10Cham2Zzzz4Cham32Mymr67Tavt24Zzzz5Tavt23Mtei10Zzzz6Ethi2Zzzz6",
    "Ethi2Zzzz6Ethi9Zzzz7Ethi1Zzzz7Ethi1Zzzz43Latn1Zyyy9Latn1Grek4Latn2Zyyy4Zzzz80Cher46Mtei2Zzzz",
    "10Mtei6Zzzz11172Hang12Zzzz23Hang4Zzzz49Hang8452Zzzz366Hani2Zzzz106Hani38Zzzz7Latn12Zzzz5Armn",
    "5Zzzz26Hebr1Zzzz5Hebr1Zzzz1Hebr1Zzzz2Hebr1Zzzz2Hebr1Zzzz10Hebr494Arab2Zyyy144Arab32Zzzz16Ara",
    "b16Zinh10Zyyy6Zzzz14Zinh2Cyrl35Zyyy1Zzzz19Zyyy1Zzzz4Zyyy4Zzzz5Arab1Zzzz135Arab2Zzzz1Zyyy1Zzz",
    "z32Zyyy26Latn6Zyyy26Latn11Zyyy10Kana1Zyyy45Kana2Zyyy31Hang3Zzzz6Hang2Zzzz6Hang2Zzzz6Hang2Zzz",
    "z3Hang3Zzzz7Zyyy1Zzzz7Zyyy10Zzzz5Zyyy2Zzzz12Linb1Zzzz26Linb1Zzzz19Linb1Zzzz2Linb1Zzzz15Linb2",
    "Zzzz14Linb34Zzzz123Linb5Zzzz3Zyyy4Zzzz45Zyyy3Zzzz9Zyyy79Grek1Zzzz13Zyyy3Zzzz1Grek47Zzzz45Zyy",
    "y1Zinh130Zzzz29Lyci3Zzzz49Cari15Zzzz1Zinh27Zyyy4Zzzz36Ital9Zzzz3Ital27Goth5Zzzz43Perm5Zzzz30",
    "Ugar1Zzzz1Ugar36Xpeo4Zzzz14Xpeo42Zzzz80Dsrt48Shaw30Osma2Zzzz10Osma6Zzzz36Osge4Zzzz36Osge4Zzz",
    "z40Elba8Zzzz52Aghb11Zzzz1Aghb11Vith1Zzzz15Vith1Zzzz7Vith1Zzzz2Vith1Zzzz11Vith1Zzzz15Vith1Zzz",
    "z7Vith1Zzzz2Vith3Zzzz52Todr12Zzzz311Lina9Zzzz22Lina10Zzzz8Lina24Zzzz6Latn1Zzzz42Latn1Zzzz9La",
    "tn69Zzzz6Cprt2Zzzz1Cprt1Zzzz44Cprt1Zzzz2Cprt3Zzzz1Cprt2Zzzz1Cprt22Armi1Zzzz9Armi32Palm31Nbat",
    "8Zzzz9Nbat48Zzzz19Hatr1Zzzz2Hatr5Zzzz5Hatr28Phnx3Zzzz1Phnx26Lydi5Zzzz1Lydi26Sidt38Zzzz32Mero",
    "24Merc4Zzzz20Merc2Zzzz46Merc4Khar1Zzzz2Khar5Zzzz8Khar1Zzzz3Khar1Zzzz29Khar2Zzzz3Khar4Zzzz10K",
    "har7Zzzz9Khar7Zzzz32Sarb32Narb32Zzzz39Mani4Zzzz12Mani9Zzzz54Avst3Zzzz7Avst22Prti2Zzzz8Prti19",
    "Phli5Zzzz8Phli18Phlp7Zzzz4Phlp12Zzzz7Phlp80Zzzz73Orkh55Zzzz51Hung13Zzzz51Hung7Zzzz6Hung40Roh",
    "g8Zzzz10Rohg6Zzzz38Gara3Zzzz29Gara8Zzzz2Gara208Zzzz31Arab1Zzzz42Yezi1Zzzz3Yezi2Zzzz2Yezi16Zz",
    "zz6Arab8Zzzz9Arab33Zzzz6Arab40Sogo8Zzzz42Sogd22Zzzz26Ougr38Zzzz28Chrs20Zzzz23Elym9Zzzz78Brah",
    "4Zzzz36Brah9Zzzz1Brah67Kthi10Zzzz1Kthi2Zzzz25Sora7Zzzz10Sora6Zzzz53Cakm1Zzzz18Cakm8Zzzz39Mah",
    "j9Zzzz96Shrd1Zzzz20Sinh11Zzzz18Khoj1Zzzz47Khoj62Zzzz7Mult1Zzzz1Mult1Zzzz4Mult1Zzzz15Mult1Zzz",
    "z11Mult6Zzzz59Sind5Zzzz10Sind6Zzzz4Gran1Zzzz8Gran2Zzzz2Gran2Zzzz22Gran1Zzzz7Gran1Zzzz2Gran1Z",
    "zzz5Gran1Zzzz1Zinh9Gran2Zzzz2Gran2Zzzz3Gran2Zzzz1Gran6Zzzz1Gran5Zzzz7Gran2Zzzz7Gran3Zzzz5Gra",
    "n11Zzzz10Tutg1Zzzz1Tutg2Zzzz1Tutg1Zzzz38Tutg1Zzzz10Tutg1Zzzz1Tutg2Zzzz1Tutg1Zzzz4Tutg1Zzzz10",
    "Tutg1Zzzz2Tutg8Zzzz2Tutg29Zzzz92Newa1Zzzz5Newa30Zzzz72Tirh8Zzzz10Tirh166Zzzz54Sidd2Zzzz38Sid",
    "d34Zzzz69Modi11Zzzz10Modi6Zzzz13Mong19Zzzz58Takr6Zzzz10Takr6Zzzz20Mymr28Zzzz27Ahom2Zzzz15Aho",
    "m4Zzzz23Ahom185Zzzz60Dogr100Zzzz83Wara12Zzzz1Wara7Diak2Zzzz1Diak2Zzzz8Diak1Zzzz2Diak1Zzzz30D",
    "iak1Zzzz2Diak2Zzzz12Diak9Zzzz10Diak70Zzzz8Nand2Zzzz46Nand2Zzzz11Nand27Zzzz72Zanb8Zzzz83Soyo1",
    "3Zzzz16Cans57Pauc7Zzzz10Deva86Zzzz8Shrd88Zzzz34Sunu14Zzzz10Sunu6Zzzz9Bhks1Zzzz45Bhks1Zzzz14B",
    "hks10Zzzz29Bhks3Zzzz32Marc2Zzzz22Marc1Zzzz14Marc73Zzzz7Gonm1Zzzz2Gonm1Zzzz44Gonm3Zzzz1Gonm1Z",
    "zzz2Gonm1Zzzz9Gonm8Zzzz10Gonm6Zzzz6Gong1Zzzz2Gong1Zzzz37Gong1Zzzz2Gong1Zzzz6Gong7Zzzz10Gong6",
    "Zzzz44Tols4Zzzz10Tols246Zzzz25Maka7Zzzz17Kawi1Zzzz41Kawi3Zzzz29Kawi85Zzzz1Lisu15Zzzz50Taml13",
    "Zzzz1Taml922Xsux102Zzzz111Xsux1Zzzz5Xsux11Zzzz196Xsux2636Zzzz99Cpmn13Zzzz1110Egyp10Zzzz3995E",
    "gyp5Zzzz583Hluw6841Zzzz58Gukh1734Zzzz569Bamu7Zzzz31Mroo1Zzzz10Mroo4Zzzz2Mroo79Tnsa1Zzzz10Tns",
    "a6Zzzz30Bass2Zzzz6Bass10Zzzz70Hmng10Zzzz10Hmng1Zzzz7Hmng1Zzzz21Hmng5Zzzz19Hmng432Zzzz58Krai1",
    "98Zzzz91Medf5Zzzz25Berf2Zzzz25Berf44Zzzz75Plrd4Zzzz57Plrd7Zzzz17Plrd64Zzzz1Tang1Nshu2Hani1Ki",
    "ts11Zzzz7Hani9Zzzz6912Tang470Kits41Zzzz1Kits31Tang97Zzzz115Tang8701Zzzz4Kana1Zzzz7Kana1Zzzz2",
    "Kana1Zzzz1Kana287Hira3Kana15Zzzz1Hira29Zzzz3Hira2Zzzz1Kana14Zzzz4Kana8Zzzz396Nshu2308Zzzz107",
    "Dupl5Zzzz13Dupl3Zzzz9Dupl7Zzzz10Dupl2Zzzz4Dupl4Zyyy3932Zzzz253Zyyy3Zzzz436Zyyy6Zzzz23Zyyy15Z",
    "zzz17Zyyy15Zzzz46Zinh2Zzzz23Zinh9Zzzz116Zyyy60Zzzz246Zyyy10Zzzz39Zyyy2Zzzz62Zyyy3Zinh17Zyyy8",
    "Zinh2Zyyy7Zinh30Zyyy4Zinh61Zyyy21Zzzz70Grek122Zzzz20Zyyy12Zzzz20Zyyy12Zzzz87Zyyy9Zzzz25Zyyy1",
    "35Zzzz85Zyyy1Zzzz71Zyyy1Zzzz2Zyyy2Zzzz1Zyyy2Zzzz2Zyyy2Zzzz4Zyyy1Zzzz12Zyyy1Zzzz1Zyyy1Zzzz7Zy",
    "yy1Zzzz65Zyyy1Zzzz4Zyyy2Zzzz8Zyyy1Zzzz7Zyyy1Zzzz28Zyyy1Zzzz4Zyyy1Zzzz5Zyyy1Zzzz1Zyyy3Zzzz7Zy",
    "yy1Zzzz340Zyyy2Zzzz292Zyyy2Zzzz50Zyyy652Sgnw15Zzzz5Sgnw1Zzzz15Sgnw1104Zzzz31Latn6Zzzz6Latn21",
    "3Zzzz7Glag1Zzzz17Glag2Zzzz7Glag1Zzzz2Glag1Zzzz5Glag5Zzzz62Cyrl33Zzzz1Cyrl112Zzzz45Hmnp3Zzzz1",
    "4Hmnp2Zzzz10Hmnp4Zzzz2Hmnp320Zzzz31Toto17Zzzz58Wcho5Zzzz1Wcho464Zzzz42Nagm214Zzzz43Onao4Zzzz",
    "1Onao192Zzzz31Tayo1Zzzz22Tayo8Zzzz2Tayo224Zzzz7Ethi1Zzzz4Ethi1Zzzz2Ethi1Zzzz15Ethi1Zzzz197Me",
    "nd2Zzzz16Mend41Zzzz76Adlm4Zzzz10Adlm4Zzzz2Adlm785Zzzz68Zyyy76Zzzz61Zyyy194Zzzz4Arab1Zzzz27Ar",
    "ab1Zzzz2Arab1Zzzz1Arab2Zzzz1Arab1Zzzz10Arab1Zzzz4Arab1Zzzz1Arab1Zzzz1Arab6Zzzz1Arab4Zzzz1Ara",
    "b1Zzzz1Arab1Zzzz1Arab1Zzzz3Arab1Zzzz2Arab1Zzzz1Arab2Zzzz1Arab1Zzzz1Arab1Zzzz1Arab1Zzzz1Arab1",
    "Zzzz1Arab1Zzzz2Arab1Zzzz1Arab2Zzzz4Arab1Zzzz7Arab1Zzzz4Arab1Zzzz4Arab1Zzzz1Arab1Zzzz10Arab1Z",
    "zzz17Arab5Zzzz3Arab1Zzzz5Arab1Zzzz17Arab52Zzzz2Arab270Zzzz44Zyyy4Zzzz100Zyyy12Zzzz15Zyyy2Zzz",
    "z15Zyyy1Zzzz15Zyyy1Zzzz37Zyyy10Zzzz174Zyyy56Zzzz26Zyyy1Hira2Zyyy13Zzzz44Zyyy4Zzzz9Zyyy7Zzzz2",
    "Zyyy14Zzzz6Zyyy154Zzzz985Zyyy3Zzzz17Zyyy3Zzzz13Zyyy3Zzzz218Zyyy6Zzzz12Zyyy4Zzzz1Zyyy15Zzzz12",
    "Zyyy4Zzzz56Zyyy8Zzzz10Zyyy6Zzzz40Zyyy8Zzzz30Zyyy2Zzzz12Zyyy4Zzzz2Zyyy14Zzzz9Zyyy39Zzzz344Zyy",
    "y8Zzzz14Zyyy2Zzzz13Zyyy3Zzzz11Zyyy3Zzzz57Zyyy1Zzzz1Zyyy4Zzzz16Zyyy2Zzzz12Zyyy4Zzzz10Zyyy7Zzz",
    "z147Zyyy1Zzzz103Zyyy1029Zzzz42720Hani32Zzzz4382Hani2Zzzz5774Hani2Zzzz7473Hani15Zzzz622Hani24",
    "66Zzzz542Hani1506Zzzz4939Hani5Zzzz8490Hani707463Zzzz1Zyyy30Zzzz96Zyyy128Zzzz240Zinh196112Zzz",
    "z"]

/-- The long names of the scripts, each before its four letter form, and further names. -/
def scriptNames : List (String × String) :=
  [("Adlam", "Adlm"), ("Caucasian_Albanian", "Aghb"), ("Ahom", "Ahom"), ("Arabic", "Arab"),
   ("Imperial_Aramaic", "Armi"), ("Armenian", "Armn"), ("Avestan", "Avst"),
   ("Balinese", "Bali"), ("Bamum", "Bamu"), ("Bassa_Vah", "Bass"), ("Batak", "Batk"),
   ("Bengali", "Beng"), ("Bhaiksuki", "Bhks"), ("Bopomofo", "Bopo"), ("Brahmi", "Brah"),
   ("Braille", "Brai"), ("Buginese", "Bugi"), ("Buhid", "Buhd"), ("Chakma", "Cakm"),
   ("Canadian_Aboriginal", "Cans"), ("Carian", "Cari"), ("Cham", "Cham"), ("Cherokee", "Cher"),
   ("Chorasmian", "Chrs"), ("Coptic", "Copt"), ("Qaac", "Copt"), ("Cypro_Minoan", "Cpmn"),
   ("Cypriot", "Cprt"), ("Cyrillic", "Cyrl"), ("Devanagari", "Deva"), ("Dives_Akuru", "Diak"),
   ("Dogra", "Dogr"), ("Deseret", "Dsrt"), ("Duployan", "Dupl"),
   ("Egyptian_Hieroglyphs", "Egyp"), ("Elbasan", "Elba"), ("Elymaic", "Elym"),
   ("Ethiopic", "Ethi"), ("Georgian", "Geor"), ("Glagolitic", "Glag"),
   ("Gunjala_Gondi", "Gong"), ("Masaram_Gondi", "Gonm"), ("Gothic", "Goth"),
   ("Grantha", "Gran"), ("Greek", "Grek"), ("Gujarati", "Gujr"), ("Gurmukhi", "Guru"),
   ("Hangul", "Hang"), ("Han", "Hani"), ("Hanunoo", "Hano"), ("Hatran", "Hatr"),
   ("Hebrew", "Hebr"), ("Hiragana", "Hira"), ("Anatolian_Hieroglyphs", "Hluw"),
   ("Pahawh_Hmong", "Hmng"), ("Nyiakeng_Puachue_Hmong", "Hmnp"), ("Old_Hungarian", "Hung"),
   ("Old_Italic", "Ital"), ("Javanese", "Java"), ("Kayah_Li", "Kali"), ("Katakana", "Kana"),
   ("Kawi", "Kawi"), ("Kharoshthi", "Khar"), ("Khmer", "Khmr"), ("Khojki", "Khoj"),
   ("Khitan_Small_Script", "Kits"), ("Kannada", "Knda"), ("Kaithi", "Kthi"),
   ("Tai_Tham", "Lana"), ("Lao", "Laoo"), ("Latin", "Latn"), ("Lepcha", "Lepc"),
   ("Limbu", "Limb"), ("Linear_A", "Lina"), ("Linear_B", "Linb"), ("Lisu", "Lisu"),
   ("Lycian", "Lyci"), ("Lydian", "Lydi"), ("Mahajani", "Mahj"), ("Makasar", "Maka"),
   ("Mandaic", "Mand"), ("Manichaean", "Mani"), ("Marchen", "Marc"), ("Medefaidrin", "Medf"),
   ("Mende_Kikakui", "Mend"), ("Meroitic_Cursive", "Merc"), ("Meroitic_Hieroglyphs", "Mero"),
   ("Malayalam", "Mlym"), ("Modi", "Modi"), ("Mongolian", "Mong"), ("Mro", "Mroo"),
   ("Meetei_Mayek", "Mtei"), ("Multani", "Mult"), ("Myanmar", "Mymr"), ("Nag_Mundari", "Nagm"),
   ("Nandinagari", "Nand"), ("Old_North_Arabian", "Narb"), ("Nabataean", "Nbat"),
   ("Newa", "Newa"), ("Nko", "Nkoo"), ("Nushu", "Nshu"), ("Ogham", "Ogam"),
   ("Ol_Chiki", "Olck"), ("Old_Turkic", "Orkh"), ("Oriya", "Orya"), ("Osage", "Osge"),
   ("Osmanya", "Osma"), ("Old_Uyghur", "Ougr"), ("Palmyrene", "Palm"), ("Pau_Cin_Hau", "Pauc"),
   ("Old_Permic", "Perm"), ("Phags_Pa", "Phag"), ("Inscriptional_Pahlavi", "Phli"),
   ("Psalter_Pahlavi", "Phlp"), ("Phoenician", "Phnx"), ("Miao", "Plrd"),
   ("Inscriptional_Parthian", "Prti"), ("Rejang", "Rjng"), ("Hanifi_Rohingya", "Rohg"),
   ("Runic", "Runr"), ("Samaritan", "Samr"), ("Old_South_Arabian", "Sarb"),
   ("Saurashtra", "Saur"), ("SignWriting", "Sgnw"), ("Shavian", "Shaw"), ("Sharada", "Shrd"),
   ("Siddham", "Sidd"), ("Khudawadi", "Sind"), ("Sinhala", "Sinh"), ("Sogdian", "Sogd"),
   ("Old_Sogdian", "Sogo"), ("Sora_Sompeng", "Sora"), ("Soyombo", "Soyo"),
   ("Sundanese", "Sund"), ("Syloti_Nagri", "Sylo"), ("Syriac", "Syrc"), ("Tagbanwa", "Tagb"),
   ("Takri", "Takr"), ("Tai_Le", "Tale"), ("New_Tai_Lue", "Talu"), ("Tamil", "Taml"),
   ("Tangut", "Tang"), ("Tai_Viet", "Tavt"), ("Telugu", "Telu"), ("Tifinagh", "Tfng"),
   ("Tagalog", "Tglg"), ("Thaana", "Thaa"), ("Thai", "Thai"), ("Tibetan", "Tibt"),
   ("Tirhuta", "Tirh"), ("Tangsa", "Tnsa"), ("Toto", "Toto"), ("Ugaritic", "Ugar"),
   ("Vai", "Vaii"), ("Vithkuqi", "Vith"), ("Warang_Citi", "Wara"), ("Wancho", "Wcho"),
   ("Old_Persian", "Xpeo"), ("Cuneiform", "Xsux"), ("Yezidi", "Yezi"), ("Yi", "Yiii"),
   ("Zanabazar_Square", "Zanb"), ("Inherited", "Zinh"), ("Qaai", "Zinh"), ("Common", "Zyyy"),
   ("Unknown", "Zzzz"), ("Garay", "Gara"), ("Gurung_Khema", "Gukh"), ("Kirat_Rai", "Krai"),
   ("Ol_Onal", "Onao"), ("Sunuwar", "Sunu"), ("Todhri", "Todr"), ("Tulu_Tigalari", "Tutg"),
   ("Sidetic", "Sidt"), ("Tolong_Siki", "Tols"), ("Beria_Erfe", "Berf"), ("Tai_Yo", "Tayo")]

def scriptExtensionTable : List (String × String) :=
  [("Adlm", "1567 1 32 1 6670 1 3569 1 1102270"),
   ("Aghb", "772 1 44 1 44 1 1113249"),
   ("Arab", "1548 1 14 1 3 1 32 1 10 11 26 1 6622 1 3569 1 52988 2 1440 28 1047812"),
   ("Armn", "776 1 1113335"),
   ("Avst", "183 1 11640 2 1102286"),
   ("Beng", "700 1 1684 2 17 2 4970 1 1 1 2 2 1 1 8 1 8 1 2 1 4 1 2 3 35833 1 1070862"),
   ("Bopo", "711 1 1 3 13 1 11559 3 4 10 1 13 10 4 2 1 6 1 195 1 52553 2 282 5 1048730"),
   ("Bugi", "43471 1 1070640"),
   ("Buhd", "5941 2 1108169"),
   ("Cakm", "2534 10 1616 10 1109942"),
   ("Cari", "183 1 8098 1 2 1 3539 1 1102286"),
   ("Cher", "768 3 1 1 6 2 22 2 11 2 1113294"),
   ("Copt", "183 1 584 1 3 2 1 1 108 2 10913 1 54472 28 1047812"),
   ("Cpmn", "65792 2 1048318"),
   ("Cprt", "65792 3 4 45 3 9 1048256"),
   ("Cyrl", "700 1 67 3 1 1 1 1 1 1 2 1 5 1 371 2 6513 1 4170 1 1102268"),
   ("Deva", "700 1 1684 2 17 2 4970 39 1 2 1014 1 34623 10 1071046"),
   ("Dogr", "2404 12 40640 10 1071046"),
   ("Dupl", "183 1 591 2 1 1 24 2 11031 1 101987 4 1000284"),
   ("Elba", "183 1 589 1 1113338"),
   ("Ethi", "782 1 1113329"),
   ("Geor", "183 1 1233 1 2929 1 3934 1 3542 1 1102286"),
   ("Glag", "183 1 587 1 1 1 382 1 2 1 257 1 2929 1 3934 1 3560 1 30763 1 1071504"),
   ("Gong", "183 1 2220 2 1111706"),
   ("Gonm", "2404 2 1111706"),
   ("Goth", "183 1 588 2 2 1 40 1 1113294"),
   ("Gran", "2385 2 17 2 640 14 4316 1 1 2 30 3 3 2 1014 1 62026 1 3220 2 1 1 1040428"),
   ("Grek", "183 1 584 2 2 1 1 1 1 1 10 1 46 1 2 1 46 1 6731 2 667 1 1105826"),
   ("Gujr", "2385 2 17 2 40650 10 1071046"),
   ("Guru", "2385 2 17 2 40650 10 1071046"),
   ("Hang", "12289 3 4 10 1 13 16 1 6 1 195 1 52553 2 282 5 1048730"),
   ("Hani", String.join [
    "183 1 12088 16 1 3 2 1 1 10 1 13 10 4 2 1 6 1 4 4 187 1 148 16 32 38 9 1 48 40 5",
    "6 49 15 12 51 1 88 25 10 5 96 31 29441 8 22333 2 282 5 54266 18 7902 2 986542"]),
   ("Hano", "5941 2 1108169"),
   ("Hebr", "775 2 1113335"),
   ("Hira", "12289 3 4 10 1 13 16 6 1 1 4 2 91 4 3 1 90 2 52552 2 282 5 10 1 45 2 1048672"),
   ("Hung", "8282 1 2 1 3539 1 15 1 1102270"),
   ("Java", "43471 1 1070640"),
   ("Kali", "43310 1 1070801"),
   ("Kana", String.join [
    "773 1 29 1 11485 3 4 10 1 13 16 6 1 1 4 2 91 4 3 1 90 2 52552 2 282 5 10 1 45 2 ",
    "1048672"]),
   ("Khoj", "2790 10 40256 10 1071046"),
   ("Knda", "2385 2 17 2 4970 1 1 2 6 1 23 1 1 1 35643 6 1071050"),
   ("Kthi", "2406 10 9409 1 31230 10 1071046"),
   ("Latn", String.join [
    "183 1 516 1 10 1 1 3 1 1 9 1 1 1 38 15 1 2 1 1 15 3 7 2 1 2 38 1 5 1 4 13 277 2 ",
    "1226 2 1960 1 3324 1 566 1 192 1 3366 1 30952 8 550 1 1070801"]),
   ("Limb", "2405 1 1111706"),
   ("Lina", "65799 45 1048268"),
   ("Linb", "65792 3 4 45 3 9 1048256"),
   ("Lisu", "700 1 16 1 11580 2 1101812"),
   ("Lyci", "8282 1 1105829"),
   ("Lydi", "183 1 11641 1 1102286"),
   ("Mahj", "183 1 2220 12 40640 10 1071046"),
   ("Mand", "1600 1 1112511"),
   ("Mani", "1600 1 1112511"),
   ("Mero", "8285 1 1105826"),
   ("Mlym", "2385 2 17 2 4980 1 23 1 35645 3 1071053"),
   ("Modi", "43056 10 1071046"),
   ("Mong", "6146 2 1 1 2089 1 4049 2 5 4 1101812"),
   ("Mult", "2662 10 1111440"),
   ("Mymr", "43310 1 1070801"),
   ("Nand", "2385 1 18 2 896 10 4089 1 8 1 7 1 35637 6 1071050"),
   ("Newa", "2385 2 4994 1 1 2 9 1 6 1 1 1 1 1 1106706"),
   ("Nkoo", "1548 1 14 1 3 1 63262 2 1049280"),
   ("Orkh", "8282 1 3541 1 1102287"),
   ("Orya", "2385 2 17 2 4980 1 23 1 1106701"),
   ("Osge", "769 1 2 1 6 1 76 1 1113255"),
   ("Ougr", "1600 1 66737 1 1045773"),
   ("Perm", "183 1 584 1 5 3 10 1 367 1 1112956"),
   ("Phag", "6146 2 1 1 2089 1 4050 1 1101821"),
   ("Phlp", "1600 1 1112511"),
   ("Rohg", "1548 1 14 1 3 1 32 1 147 1 1112363"),
   ("Runr", "5867 3 1108242"),
   ("Samr", "11825 1 1102286"),
   ("Shaw", "183 1 1113928"),
   ("Shrd", "2385 1 4997 1 1 1 2 2 2 1 9 1 2 1 35650 6 2 1 1071047"),
   ("Sind", "2404 2 40650 10 1071046"),
   ("Sinh", "2404 2 5004 1 1106701"),
   ("Sogd", "1600 1 1112511"),
   ("Sylo", "2404 2 128 10 1111568"),
   ("Syrc", "771 2 2 2 1 1 24 3 7 2 1 2 730 1 14 2 2 1 32 1 10 11 26 1 6023 1 1 1 1106437"),
   ("Tagb", "5941 2 1108169"),
   ("Takr", "2404 2 40650 10 1071046"),
   ("Tale", "768 2 5 2 3 1 3379 10 1109942"),
   ("Taml", "2385 2 17 2 4980 1 35864 1 27149 1 1 1 55 2 1043651"),
   ("Tang", "12272 16 495 1 1101328"),
   ("Telu", "2385 2 17 2 4975 2 1 1 1 1 23 1 1106701"),
   ("Tfng", "770 1 1 1 1 4 25 1 1113308"),
   ("Tglg", "5941 2 1108169"),
   ("Thaa", "1548 1 14 2 2 1 64 10 63368 1 10 1 1049090"),
   ("Thai", "700 1 26 1 43 1 45 1 1113294"),
   ("Tibt", "12296 4 1101812"),
   ("Tirh", "2385 2 17 2 4975 1 12 1 15 1 35645 10 1071046"),
   ("Toto", "700 1 1113411"),
   ("Yezi", "1548 1 14 1 3 1 64 10 1112470"),
   ("Yiii", "12289 2 5 10 2 8 223 1 52837 5 1048730"),
   ("Zinh", String.join [
    "768 15 1 2 1 1 15 3 7 2 1 2 16 1 2 1 18 1 5 1 4 13 277 2 452 11 26 1 736 2 4989 ",
    "3 1 13 1 7 4 1 6 1 3 2 198 2 54 1 1 1 757 1 3897 4 107 2 53829 1 4186 1 1043652"]),
   ("Zyyy", String.join [
    "183 1 516 1 10 1 1 3 1 1 9 1 1 1 154 1 663 1 14 1 3 1 32 1 803 2 1941 1 1519 3 7",
    "1 2 203 2 1 1 1229 1 13 1 7 4 1 6 1 3 2 1 820 1 31 1 10 1 2 1 3513 1 24 2 10 1 4 ",
    "1 1 1 428 16 1 3 2 1 1 10 1 13 16 6 1 1 4 4 91 2 3 1 90 2 147 16 32 38 9 1 48 40 ",
    "56 49 15 12 51 1 88 25 10 5 96 31 29441 8 296 10 244 1 160 1 21358 2 261 2 282 5 ",
    "10 1 45 2 352 3 4 45 3 9 417 27 47524 4 5820 18 7902 2 986542"]),
   ("Gara", "1548 1 14 1 3 1 1112544"),
   ("Gukh", "2405 1 1111706"),
   ("Onao", "2404 2 1111706"),
   ("Sunu", "768 2 1 1 9 1 2 1 28 1 3 1 1113294"),
   ("Todr", "769 1 2 1 2 1 9 1 1 1 74 1 1113249"),
   ("Tutg", "3302 10 4098 1 1 1 35643 6 187 1 1070862")]

def scriptRuns : Array (Range × String) := labelled scriptTable

def ofScript (name : String) : Ranges :=
  (scriptRuns.toList.filter fun r ↦ r.2 == name).map Prod.fst

def scriptExtension (name : String) : Ranges :=
  property ((scriptExtensionTable.lookup name).getD "0")

end StyleTypings.Unicode
